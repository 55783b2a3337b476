import Mathlib.Data.List.DropRight
import Bossa.Core.Config
import Bossa.Sync.HttpUploader
import Bossa.Sync.UploadPolicy
import Bossa.Telemetry.RingBuffer.Basic
import Bossa.Telemetry.Scheduler.Basic

/-!
# The telemetry runtime

`src/runtime/telemetry_runtime.cpp`: it wires drivers, scheduler, ring buffer,
upload policy, store and uploader together. Whatever comes from outside is an
argument: the readings of the clocks, in the order in which the code takes them,
what the drivers return, the HTTP client and the outcomes of SQLite statements.

Besides the next state a step returns its events: the samples that were read,
dropped, posted, written to the table and deleted from it.
-/

namespace Bossa.Runtime

open Bossa.Core Telemetry Storage Sync

/-- A driver, created by the registry and configured. What it returns on a read
is an argument of the poll. -/
structure Driver where
  name : Bytes
  parameters : Json

/-- `TelemetryRuntime::ChannelBinding`. -/
structure ChannelBinding where
  config : ChannelConfig
  driver : Driver

/-- What `Driver::read` returns. -/
structure ReadResult where
  samples : List Sample
  count_le : samples.length ≤ 8

/-- The path a batch takes to the server. -/
inductive Route where
  | flush
  | retry
  deriving DecidableEq, Repr

/-- An event of a tick: a sample read while polling a channel, a sample the ring
buffer dropped, a POST begun at a clock reading, or a statement on the table. -/
inductive Event where
  | read (channel : ChannelConfig) (now : ℤ) (sample : Sample)
  | dropped (sample : StoredSample)
  | post (route : Route) (now : ℤ) (exchange : Exchange)
  | statement (s : Statement)

namespace Event

def readSamples : Event → List Sample
  | read _ _ sample => [sample]
  | _ => []

def droppedSamples : Event → List StoredSample
  | dropped sample => [sample]
  | _ => []

def postedSamples : Event → List StoredSample
  | post _ _ exchange => exchange.samples
  | _ => []

def acceptedSamples : Event → List StoredSample
  | post _ _ exchange =>
      if HttpUploader.interpretResponse exchange.response = .accepted then exchange.samples
      else []
  | _ => []

/-- The samples that a rejected POST of a flush contained. -/
def refusedSamples : Event → List StoredSample
  | post .flush _ exchange =>
      if HttpUploader.interpretResponse exchange.response = .rejected then exchange.samples
      else []
  | _ => []

def statementOk : Event → Bool
  | statement s => s.ok
  | _ => true

end Event

/-- The state of a `TelemetryRuntime`. -/
structure TelemetryRuntime where
  config : Config
  apiKey : Bytes
  channels : AList fun _ : Bytes => ChannelBinding
  scheduler : Scheduler
  buffer : Option RingBuffer
  store : LocalStore
  policy : UploadPolicy
  uploader : Option HttpUploader
  lastError : Bytes
  acceptedUploadCount : ℕ
  retryAttempt : ℕ
  nextRetryAt : ℤ
  storeOpen : Bool

/-- The outside of a call of `configure`: the API key of the caller, the contents
of the key file if it can be opened, the fault on opening the store, the names
the registry knows, the faults of the drivers and the readings of the clock for
each channel of the configuration, and the reading for the scheduler. -/
structure ConfigureInput where
  apiKey : Bytes
  keyFile : Option Bytes
  openFault : Option OpenFault
  registered : Bytes → Bool
  driverFault : ℕ → Option Bytes
  channelNow : ℕ → ℤ
  schedulerNow : ℤ

/-- The outside of an upload attempt: the clock reading it starts at, the system
clock, the HTTP client, the outcomes of the statements, and the clock reading
taken after a failure. -/
structure AttemptInput where
  now : ℤ
  sentAt : ℤ
  client : HttpClient
  faults : StoreFaults
  failedNow : ℤ

/-- The outside of a call of `tick`: fuel for the loops of the scheduler and its
clock reading, what each poll reads and the clock reading after it, the flush,
whether the rows can be counted, and the retry. -/
structure TickInput where
  fuel : ℕ
  now : ℤ
  reads : ℕ → ReadResult
  pollNow : ℕ → ℤ
  flush : AttemptInput
  countFault : Bool
  retry : AttemptInput

/-- `read_api_key_file`: the first line without the line terminators at its
end. -/
def readApiKeyFile (path : Bytes) (file : Option Bytes) : Bytes :=
  if path = [] then []
  else
    match file with
    | none => []
    | some contents =>
        (contents.takeWhile (· ≠ 10)).rdropWhile fun c => c = 10 || c = 13

/-- `TelemetryRuntime::backoff_delay`, in nanoseconds. -/
def backoffDelay (attempt : ℕ) : ℤ :=
  ([5, 10, 30, 60, 300].getD (min (attempt - 1) 4) 300) * 1000000000

def bufferCapacity (config : Config) : ℕ :=
  if config.server.maxBatchSize > 0 then config.server.maxBatchSize.toNat else 500

theorem bufferCapacity_pos (config : Config) : 0 < bufferCapacity config := by
  unfold bufferCapacity
  split
  · omega
  · decide

/-- The loop of `maybe_flush` that empties the buffer into a batch of at most the
given size. -/
def drain : ℕ → RingBuffer → List StoredSample × RingBuffer
  | 0, b => ([], b)
  | count + 1, b =>
      match b.dequeue with
      | (none, b) => ([], b)
      | (some sample, b) =>
          let (batch, b) := drain count b
          (sample :: batch, b)

def attemptEvents (route : Route) (now : ℤ) (attempt : Attempt) : List Event :=
  (attempt.exchange.map (Event.post route now)).toList ++
    attempt.statements.map Event.statement

namespace TelemetryRuntime

/-- A runtime before its first configuration, with the database files found. -/
def new (files : Bytes → PendingUploads) : TelemetryRuntime where
  config := {}
  apiKey := []
  channels := ∅
  scheduler := ⟨[]⟩
  buffer := none
  store := ⟨none, files, []⟩
  policy := .empty
  uploader := none
  lastError := []
  acceptedUploadCount := 0
  retryAttempt := 0
  nextRetryAt := 0
  storeOpen := false

/-- `TelemetryRuntime::advance_backoff_after_failure` at the clock reading
`now`. -/
def advanceBackoffAfterFailure (now : ℤ) (s : TelemetryRuntime) : TelemetryRuntime :=
  { s with
    retryAttempt := s.retryAttempt + 1
    nextRetryAt := now + backoffDelay (s.retryAttempt + 1) }

/-- `TelemetryRuntime::reset_backoff_after_success`. -/
def resetBackoffAfterSuccess (s : TelemetryRuntime) : TelemetryRuntime :=
  { s with retryAttempt := 0, nextRetryAt := 0 }

/-- The sync state that `configure` registers for a channel. -/
def syncState (channel : ChannelConfig) : ChannelSyncState where
  channelId := channel.id
  mode := channel.sync.mode
  priority := channel.sync.priority
  remoteInterval := channel.sync.remoteIntervalSeconds
  onChangeThreshold := channel.sync.onChangeThreshold
  destinationRemote := channel.sync.destinationRemote

/-- Binding a channel: the policy replaces an entry of the same id, the map of
bindings keeps it. -/
def bindChannel (now : ℤ) (channel : ChannelConfig) (s : TelemetryRuntime) :
    TelemetryRuntime :=
  { s with
    policy := s.policy.configureChannel (syncState channel) now
    channels :=
      if channel.id ∈ s.channels then s.channels
      else s.channels.insert channel.id ⟨channel, ⟨channel.driver, channel.parameters⟩⟩ }

/-- The channel loop of `configure` from an index on: whether it came to its end,
the schedule and the state. -/
def configureChannels (input : ConfigureInput) :
    ℕ → List ChannelConfig → TelemetryRuntime →
      Bool × List ScheduleEntry × TelemetryRuntime
  | _, [], s => (true, [], s)
  | index, channel :: channels, s =>
      if channel.sampleRateHz.le (.finite 0) then
        configureChannels input (index + 1) channels s
      else if !input.registered channel.driver then
        (false, [], { s with lastError := Bytes.ascii "unknown driver: " ++ channel.driver })
      else
        match input.driverFault index with
        | some message =>
            (false, [], { s with
              lastError := Bytes.ascii "configure " ++ channel.id ++ Bytes.ascii ": " ++ message })
        | none =>
            let (ok, schedule, s) :=
              configureChannels input (index + 1) channels
                (s.bindChannel (input.channelNow index) channel)
            (ok, ⟨channel.id, channel.sampleRateHz⟩ :: schedule, s)

/-- The part of `configure` in front of the store: everything is reset. -/
def reset (input : ConfigureInput) (config : Config) (s : TelemetryRuntime) :
    TelemetryRuntime :=
  { s with
    lastError := []
    config := config
    apiKey :=
      if input.apiKey ≠ [] then input.apiKey
      else readApiKeyFile config.node.apiKeyFile input.keyFile
    channels := ∅
    policy := s.policy.clear
    uploader := none
    buffer := some (.new (bufferCapacity config) (bufferCapacity_pos config))
    acceptedUploadCount := 0
    retryAttempt := 0
    nextRetryAt := 0 }

/-- The part of `configure` that opens the store. -/
def openStore (input : ConfigureInput) (s : TelemetryRuntime) : Bool × TelemetryRuntime :=
  if s.config.localStorage.path ≠ [] then
    let (opened, store) := s.store.open input.openFault s.config.localStorage.path
    if !opened then
      (false, { s with store := store, storeOpen := false, lastError := store.lastError })
    else (true, { s with store := store, storeOpen := true })
  else (true, { s with storeOpen := false })

/-- The uploader that `configure` creates when there is a server. -/
def createUploader (s : TelemetryRuntime) : Option HttpUploader :=
  if s.config.server.url ≠ [] then
    some
      { hasStore := s.storeOpen
        serverUrl := s.config.server.url
        nodeId := s.config.node.id
        apiKey := s.apiKey
        timeoutSeconds := s.config.server.uploadTimeoutSeconds }
  else none

/-- `TelemetryRuntime::configure`. -/
def configure (input : ConfigureInput) (config : Config) (s : TelemetryRuntime) :
    Bool × TelemetryRuntime :=
  let (opened, s) := (s.reset input config).openStore input
  if !opened then (false, s)
  else
    let (ok, schedule, s) := configureChannels input 0 config.channels s
    if !ok then (false, s)
    else
      let s := { s with scheduler := .configure schedule input.schedulerNow }
      (true, { s with uploader := s.createUploader })

/-- The samples in the ring buffer, in order of arrival. -/
def residents (s : TelemetryRuntime) : List StoredSample :=
  s.buffer.elim [] RingBuffer.residents

/-- The body of the loop of `poll_channel`. -/
def recordSample (channelId : Bytes) (channel : ChannelConfig) (now : ℤ) (sample : Sample)
    (s : TelemetryRuntime) : List Event × TelemetryRuntime :=
  let stored := StoredSample.fromSample sample channel.sync.priority
  (.read channel now sample ::
      ((s.buffer.bind fun b => b.dropped stored).map Event.dropped).toList,
    { s with
      buffer := s.buffer.map fun b => (b.enqueue stored).2
      policy := s.policy.onSample channelId sample.value now })

/-- The loop of `poll_channel`. -/
def recordSamples (channelId : Bytes) (channel : ChannelConfig) (now : ℤ) :
    List Sample → TelemetryRuntime → List Event × TelemetryRuntime
  | [], s => ([], s)
  | sample :: samples, s =>
      let (events, s) := s.recordSample channelId channel now sample
      let (rest, s) := recordSamples channelId channel now samples s
      (events ++ rest, s)

/-- `TelemetryRuntime::poll_channel`. -/
def pollChannel (channelId : Bytes) (result : ReadResult) (now : ℤ)
    (s : TelemetryRuntime) : List Event × TelemetryRuntime :=
  match s.channels.lookup channelId with
  | none => ([], s)
  | some binding => s.recordSamples channelId binding.config now result.samples

def pollChannels (input : TickInput) :
    ℕ → List Bytes → TelemetryRuntime → List Event × TelemetryRuntime
  | _, [], s => ([], s)
  | index, channelId :: polls, s =>
      let (events, s) := s.pollChannel channelId (input.reads index) (input.pollNow index)
      let (rest, s) := pollChannels input (index + 1) polls s
      (events ++ rest, s)

/-- The part of `tick` that polls the due channels. The callback of
`dispatch_due` does not touch the scheduler, so the polls may follow its loop. -/
def pollDue (input : TickInput) (s : TelemetryRuntime) :
    Except Abort (List Event × TelemetryRuntime) := do
  let dispatch ← s.scheduler.dispatchDue add64 input.fuel input.now
  let polled := s.pollChannels input 0 dispatch.polls
  pure (polled.1, { polled.2 with scheduler := dispatch.scheduler })

def maxBatch (s : TelemetryRuntime) : ℕ := (max 1 s.config.server.maxBatchSize).toNat

/-- The condition of `maybe_flush`. -/
def flushDue (now : ℤ) (s : TelemetryRuntime) : Bool :=
  match s.uploader, s.buffer with
  | some _, some buffer => s.policy.shouldFlush now buffer.size s.maxBatch
  | _, _ => false

/-- What `maybe_flush` does with the result of the upload. -/
def afterFlush (input : AttemptInput) (result : UploadResult) (s : TelemetryRuntime) :
    TelemetryRuntime :=
  match result with
  | .accepted =>
      { ({ s with policy := s.policy.markFlushed input.now } :
          TelemetryRuntime).resetBackoffAfterSuccess with
        acceptedUploadCount := s.acceptedUploadCount + 1 }
  | .rejected => { s with policy := s.policy.markFlushed input.now }
  | .transientFailure => s.advanceBackoffAfterFailure input.failedNow

/-- `TelemetryRuntime::maybe_flush`. -/
def maybeFlush (input : AttemptInput) (s : TelemetryRuntime) :
    Except Abort (List Event × TelemetryRuntime) :=
  match s.uploader, s.buffer with
  | some uploader, some buffer =>
      if !s.policy.shouldFlush input.now buffer.size s.maxBatch then pure ([], s)
      else
        let (batch, buffer) := drain s.maxBatch buffer
        if batch = [] then pure ([], { s with buffer := some buffer })
        else do
          let attempt ← uploader.upload input.client input.faults input.sentAt batch s.store
          pure (attemptEvents .flush input.now attempt,
            { s with buffer := some buffer, store := attempt.store }.afterFlush input
              attempt.result)
  | _, _ => pure ([], s)

/-- What `maybe_retry` does with the result of the upload. -/
def afterRetry (input : AttemptInput) (result : UploadResult) (s : TelemetryRuntime) :
    TelemetryRuntime :=
  match result with
  | .accepted =>
      { s.resetBackoffAfterSuccess with acceptedUploadCount := s.acceptedUploadCount + 1 }
  | _ => s.advanceBackoffAfterFailure input.failedNow

/-- `TelemetryRuntime::maybe_retry`. -/
def maybeRetry (countFault : Bool) (input : AttemptInput) (s : TelemetryRuntime) :
    Except Abort (List Event × TelemetryRuntime) :=
  match s.uploader with
  | none => pure ([], s)
  | some uploader =>
      if !s.storeOpen then pure ([], s)
      else
        let count := Event.statement (.count !countFault)
        if s.store.pendingCount countFault = 0 then pure ([count], s)
        else if s.retryAttempt > 0 ∧ input.now < s.nextRetryAt then pure ([count], s)
        else do
          let attempt ← uploader.retryPending input.client input.faults input.sentAt
            s.maxBatch s.store
          pure (count :: attemptEvents .retry input.now attempt,
            { s with store := attempt.store }.afterRetry input attempt.result)

/-- `TelemetryRuntime::tick`. -/
def tick (input : TickInput) (s : TelemetryRuntime) :
    Except Abort (List Event × TelemetryRuntime) :=
  if s.channels.entries = [] then pure ([], s)
  else do
    let polled ← s.pollDue input
    let flushed ← polled.2.maybeFlush input.flush
    let retried ← flushed.2.maybeRetry input.countFault input.retry
    pure (polled.1 ++ flushed.1 ++ retried.1, retried.2)

/-- `TelemetryRuntime::next_wake`. -/
def nextWake (countFault : Bool) (s : TelemetryRuntime) : Option ℤ :=
  let wake := s.scheduler.nextDeadline
  if s.storeOpen ∧ s.store.pendingCount countFault > 0 ∧ s.retryAttempt > 0 then
    match wake with
    | none => some s.nextRetryAt
    | some deadline => some (if s.nextRetryAt < deadline then s.nextRetryAt else deadline)
  else wake

end TelemetryRuntime

end Bossa.Runtime
