import Bossa.Data.Summary
import Bossa.Telemetry.Sample

/-!
# The upload policy

`src/sync/upload_policy.cpp`. It decides when the buffered samples should be
uploaded. The map of channels is an association list without duplicate keys;
no operation depends on the order in which a map is traversed. The clock
reading that `configure_channel` takes is an argument.
-/

namespace Bossa.Sync

open Telemetry

/-- Per-channel sync parameters. The interval is in seconds. -/
structure ChannelSyncState where
  channelId : Bytes
  mode : SyncMode
  priority : Priority
  remoteInterval : ℤ
  onChangeThreshold : Double
  destinationRemote : Bool
  deriving DecidableEq, Repr

/-- `UploadPolicy::RuntimeState`. -/
structure RuntimeState where
  config : ChannelSyncState
  lastFlush : ℤ
  lastUploadedValue : Double := .finite 0
  hasUploadedValue : Bool := false
  pendingRealtime : Bool := false
  pendingOnChange : Bool := false
  deriving DecidableEq, Repr

/-- The state of an `UploadPolicy`. -/
structure UploadPolicy where
  channels : AList fun _ : Bytes => RuntimeState
  anyPendingRealtime : Bool
  anyPendingOnChange : Bool

namespace UploadPolicy

def empty : UploadPolicy := ⟨∅, false, false⟩

/-- `UploadPolicy::configure_channel` at the clock reading `now`. -/
def configureChannel (state : ChannelSyncState) (now : ℤ) (p : UploadPolicy) :
    UploadPolicy :=
  { p with
    channels := p.channels.insert state.channelId { config := state, lastFlush := now } }

/-- `UploadPolicy::clear`. -/
def clear (_p : UploadPolicy) : UploadPolicy := empty

/-- The test of an on-change channel: no value was recorded yet, or the value
differs from the recorded one by more than the threshold. -/
def changed (state : RuntimeState) (value : Double) : Bool :=
  !state.hasUploadedValue ||
    state.config.onChangeThreshold.lt (value.sub state.lastUploadedValue).abs

/-- `UploadPolicy::on_sample`. -/
def onSample (channelId : Bytes) (value : Double) (_now : ℤ) (p : UploadPolicy) :
    UploadPolicy :=
  match p.channels.lookup channelId with
  | none => p
  | some state =>
      if !state.config.destinationRemote then p
      else
        match state.config.mode with
        | .realtime =>
            { p with
              channels := p.channels.insert channelId { state with pendingRealtime := true }
              anyPendingRealtime := true }
        | .onChange =>
            if changed state value then
              { p with
                channels := p.channels.insert channelId
                  { state with
                    pendingOnChange := true
                    lastUploadedValue := value
                    hasUploadedValue := true }
                anyPendingOnChange := true }
            else p
        | .batch => p

/-- `now - state.last_flush >= state.config.remote_interval`, for a channel that
uploads batches to the remote destination. -/
def intervalElapsed (now : ℤ) (state : RuntimeState) : Bool :=
  state.config.destinationRemote && state.config.mode = .batch &&
    now - state.lastFlush ≥ state.config.remoteInterval * 1000000000

/-- `UploadPolicy::should_flush`. -/
def shouldFlush (now : ℤ) (bufferedCount maxBatchSize : ℕ) (p : UploadPolicy) : Bool :=
  if bufferedCount = 0 then false
  else if maxBatchSize > 0 ∧ bufferedCount ≥ maxBatchSize then true
  else if p.anyPendingRealtime || p.anyPendingOnChange then true
  else p.channels.entries.any fun entry => intervalElapsed now entry.2

/-- `UploadPolicy::mark_flushed`. -/
def markFlushed (now : ℤ) (p : UploadPolicy) : UploadPolicy where
  channels := p.channels.mapValues fun state =>
    { state with lastFlush := now, pendingRealtime := false, pendingOnChange := false }
  anyPendingRealtime := false
  anyPendingOnChange := false

theorem shouldFlush_pos {now : ℤ} {bufferedCount maxBatchSize : ℕ} {p : UploadPolicy}
    (h : p.shouldFlush now bufferedCount maxBatchSize = true) : 0 < bufferedCount := by
  unfold shouldFlush at h
  split at h
  · cases h
  · omega

end UploadPolicy

end Bossa.Sync
