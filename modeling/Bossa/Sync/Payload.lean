import Bossa.Data.Civil
import Bossa.Data.Json
import Bossa.Telemetry.Sample

/-!
# The upload payload

`format_time` and `HttpUploader::build_payload` of `src/sync/http_uploader.cpp`.
The members of an object stand in the order of their names, as the map of the
JSON library keeps them. The clock reading of `sent_at` is an argument.
-/

namespace Bossa.Sync

open Telemetry

/-- `format_time`: whole seconds, truncated towards the epoch, as UTC text. -/
def formatTime (timestamp : ℤ) : Bytes :=
  Civil.text (Civil.ofSeconds (timestamp.tdiv 1000000000))

def qualityToString : SampleQuality → Bytes
  | .good => Bytes.ascii "good"
  | .uncertain => Bytes.ascii "uncertain"
  | .bad => Bytes.ascii "bad"

/-- The fields of one element of `samples`. -/
structure WireSample where
  channelId : Bytes
  timestamp : Bytes
  value : Double
  unit : Bytes
  quality : Bytes
  deriving DecidableEq, Repr

def wireSample (sample : StoredSample) : WireSample where
  channelId := sample.channelId.cString
  timestamp := formatTime sample.timestamp
  value := sample.value
  unit := sample.unit.cString
  quality := qualityToString sample.quality

def WireSample.toJson (w : WireSample) : Json :=
  .obj
    [(Bytes.ascii "channel_id", .str w.channelId),
      (Bytes.ascii "quality", .str w.quality),
      (Bytes.ascii "timestamp", .str w.timestamp),
      (Bytes.ascii "unit", .str w.unit),
      (Bytes.ascii "value", .num w.value)]

/-- The object that `build_payload` assembles. -/
def payload (nodeId : Bytes) (sentAt : ℤ) (samples : List StoredSample) : Json :=
  .obj
    [(Bytes.ascii "node_id", .str nodeId),
      (Bytes.ascii "samples", .arr (samples.map fun s => (wireSample s).toJson)),
      (Bytes.ascii "sent_at", .str (formatTime sentAt))]

/-- `HttpUploader::build_payload`. -/
def buildPayload (nodeId : Bytes) (sentAt : ℤ) (samples : List StoredSample) :
    Except Abort Json :=
  (payload nodeId sentAt samples).dump

theorem formatTime_eq_iff {s t : ℤ} :
    formatTime s = formatTime t ↔ s.tdiv 1000000000 = t.tdiv 1000000000 :=
  ⟨fun h => Civil.text_ofSeconds_injective h, fun h => by rw [formatTime, h, formatTime]⟩

theorem formatTime_ne_nil (t : ℤ) : formatTime t ≠ [] := by
  simp [formatTime, Civil.text]

theorem validUtf8_formatTime (t : ℤ) : Bytes.validUtf8 (formatTime t) = true :=
  Bytes.validUtf8_of_ascii (Civil.text_ascii _)

theorem validUtf8_qualityToString (q : SampleQuality) :
    Bytes.validUtf8 (qualityToString q) = true := by
  cases q <;> decide

/-- The texts of a sample that a payload carries. -/
def ValidText (sample : StoredSample) : Prop :=
  Bytes.validUtf8 sample.channelId.cString = true ∧
    Bytes.validUtf8 sample.unit.cString = true

instance (sample : StoredSample) : Decidable (ValidText sample) :=
  inferInstanceAs (Decidable (_ ∧ _))

theorem validText_toJson_wireSample (sample : StoredSample) :
    (wireSample sample).toJson.validText = true ↔ ValidText sample := by
  have hnames : ∀ name ∈ ["channel_id", "quality", "timestamp", "unit", "value"],
      Bytes.validUtf8 (Bytes.ascii name) = true := by decide
  simp only [List.forall_mem_cons, List.not_mem_nil, false_implies, implies_true, and_true]
    at hnames
  obtain ⟨h1, h2, h3, h4, h5⟩ := hnames
  simp [WireSample.toJson, wireSample, Json.validText, Json.validMembers, ValidText,
    validUtf8_formatTime, validUtf8_qualityToString, h1, h2, h3, h4, h5]

theorem validText_payload (nodeId : Bytes) (sentAt : ℤ) (samples : List StoredSample) :
    (payload nodeId sentAt samples).validText = true ↔
      Bytes.validUtf8 nodeId = true ∧ ∀ s ∈ samples, ValidText s := by
  have hnames : ∀ name ∈ ["node_id", "samples", "sent_at"],
      Bytes.validUtf8 (Bytes.ascii name) = true := by decide
  simp only [List.forall_mem_cons, List.not_mem_nil, false_implies, implies_true, and_true]
    at hnames
  obtain ⟨h1, h2, h3⟩ := hnames
  simp [payload, Json.validText, Json.validMembers, Json.validItems_eq_all,
    validUtf8_formatTime, validText_toJson_wireSample, h1, h2, h3]

theorem buildPayload_eq_ok_iff {nodeId : Bytes} {sentAt : ℤ} {samples : List StoredSample}
    {body : Json} :
    buildPayload nodeId sentAt samples = .ok body ↔
      (Bytes.validUtf8 nodeId = true ∧ ∀ s ∈ samples, ValidText s) ∧
        (payload nodeId sentAt samples).written = body := by
  rw [buildPayload, Json.dump_eq_ok_iff, validText_payload]

end Bossa.Sync
