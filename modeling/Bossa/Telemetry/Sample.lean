import Bossa.Data.Bytes
import Bossa.Data.Double

/-!
# Samples

The data types of `include/bossa/telemetry`: priorities, sync modes and sample
qualities, the `Sample` a driver returns and the `StoredSample` the ring buffer
and the offline store keep. Time points of the system clock and of the steady
clock are counts of nanoseconds.

`origin` is a ghost field. It names the reading a sample comes from; it is
copied along with the data and no function of the model looks at it, so that
theorems can say which sample is where.
-/

namespace Bossa.Telemetry

/-- Sync and ring-buffer drop priority; lower drops first on overflow. -/
inductive Priority where
  | low
  | normal
  | critical
  deriving DecidableEq, Repr, Inhabited

namespace Priority

def toNat : Priority → ℕ
  | .low => 0
  | .normal => 1
  | .critical => 2

/-- The enumerator of an underlying value. `LocalStore::enqueue` is the only
writer of such values, so others do not occur. -/
def ofInt : ℤ → Priority
  | 0 => .low
  | 2 => .critical
  | _ => .normal

end Priority

/-- Declarative upload mode for a channel. -/
inductive SyncMode where
  | batch
  | realtime
  | onChange
  deriving DecidableEq, Repr, Inhabited

inductive SampleQuality where
  | good
  | uncertain
  | bad
  deriving DecidableEq, Repr, Inhabited

/-- A single sensor reading with metadata. -/
structure Sample where
  channelId : Bytes
  value : Double
  timestamp : ℤ
  unit : Bytes
  quality : SampleQuality
  origin : ℕ
  deriving DecidableEq, Repr, Inhabited

/-- The owning sample of the ring buffer and the local store. -/
structure StoredSample where
  channelId : CharArray 63
  unit : CharArray 31
  value : Double
  timestamp : ℤ
  quality : SampleQuality
  priority : Priority
  origin : ℕ
  deriving DecidableEq, Repr, Inhabited

/-- `copy_truncated`: as many bytes of the source as fit in front of the
terminator. -/
def copyTruncated (maxLength : ℕ) (source : Bytes) : CharArray maxLength :=
  .ofPrefix maxLength source

/-- `StoredSample::from_sample`. -/
def StoredSample.fromSample (sample : Sample) (samplePriority : Priority) :
    StoredSample where
  channelId := copyTruncated 63 sample.channelId
  unit := copyTruncated 31 sample.unit
  value := sample.value
  timestamp := sample.timestamp
  quality := sample.quality
  priority := samplePriority
  origin := sample.origin

@[simp] theorem StoredSample.fromSample_origin (sample : Sample) (p : Priority) :
    (StoredSample.fromSample sample p).origin = sample.origin := rfl

def StoredSample.dropKey (s : StoredSample) : ℕ := s.priority.toNat

end Bossa.Telemetry
