import Bossa.Sync.HttpUploader
import Bossa.Worker.Ingest

/-!
# From the edge to the Worker

What the Worker makes of a request of the uploader. The server URL is that of the
Worker, so a request reaches `handleTelemetry`. The bytes on the wire are not
modelled: the Worker parses the value that the edge has serialized.
-/

namespace Bossa.Protocol

open Telemetry Storage Sync Worker

def toRequest (request : HttpRequest) : Worker.Request where
  authorization :=
    (request.headers.find? fun h => h.1 = Bytes.ascii "Authorization").map Prod.snd
  body := some request.body

/-- The response that the edge receives; an exception of the Worker is answered
with status 500. -/
def toResponse : Except Abort ℕ → HttpResponse
  | .ok status => ⟨status, []⟩
  | .error _ => ⟨500, []⟩

def wireValue (v : Double) : SqlValue := if v.isFinite then .number v else .null

def wirePoint (nodeId : Bytes) (sample : StoredSample) : TelemetryPoint where
  nodeId := .text nodeId
  channelId := .text (wireSample sample).channelId
  timestamp := .text (wireSample sample).timestamp
  value := wireValue (wireSample sample).value
  unit := .text (wireSample sample).unit
  quality := .text (wireSample sample).quality

def wireKey (nodeId : Bytes) (sample : StoredSample) : PointKey :=
  ⟨.text nodeId, .text (wireSample sample).channelId, .text (wireSample sample).timestamp⟩

/-- The samples that the Worker does not skip. -/
def Complete (sample : StoredSample) : Prop :=
  sample.channelId.cString ≠ [] ∧ sample.unit.cString ≠ []

instance (sample : StoredSample) : Decidable (Complete sample) :=
  inferInstanceAs (Decidable (_ ∧ _))

@[simp] theorem wirePoint_key (nodeId : Bytes) (sample : StoredSample) :
    (wirePoint nodeId sample).key = wireKey nodeId sample := rfl

theorem wireKey_eq_iff {nodeId : Bytes} {s t : StoredSample} :
    wireKey nodeId s = wireKey nodeId t ↔
      s.channelId.cString = t.channelId.cString ∧
        s.timestamp.tdiv 1000000000 = t.timestamp.tdiv 1000000000 := by
  simp only [wireKey, PointKey.mk.injEq, SqlValue.text.injEq, true_and, wireSample,
    formatTime_eq_iff]

theorem wireKey_congr {nodeId : Bytes} {s t : StoredSample}
    (h : wireSample s = wireSample t) : wireKey nodeId s = wireKey nodeId t := by
  rw [wireKey, wireKey, h]

theorem complete_congr {s t : StoredSample} (h : wireSample s = wireSample t) :
    Complete s ↔ Complete t := by
  have hid : s.channelId.cString = t.channelId.cString := congrArg WireSample.channelId h
  have hunit : s.unit.cString = t.unit.cString := congrArg WireSample.unit h
  rw [Complete, Complete, hid, hunit]

theorem qualityToString_ne_nil (q : SampleQuality) : Sync.qualityToString q ≠ [] := by
  cases q <;> decide

theorem wireValue_eq_number {v : Double} (h : wireValue v ≠ .null) :
    wireValue v = .number v := by
  unfold wireValue at h ⊢
  split
  · rfl
  · next hinfinite => exact absurd (if_neg hinfinite) h

theorem bind_written_num (d1 : D1) (v : Double) :
    ∃ bound, d1.bind (some (Json.num v).written) = .ok bound ∧ d1.toReal bound = wireValue v := by
  cases v with
  | finite q => exact ⟨_, d1.bind_num q, rfl⟩
  | infinity negative => exact ⟨_, d1.bind_null, rfl⟩
  | nan => exact ⟨_, d1.bind_null, rfl⟩

/-- The statement that the Worker prepares for a sample of the edge. -/
theorem pointStatement_wireSample (d1 : D1) (nodeId : Bytes) (sample : StoredSample) :
    pointStatement d1 (.str nodeId) (wireSample sample).toJson.written =
      .ok (if Complete sample then some (wirePoint nodeId sample) else none) := by
  have hid : property "channel_id" (wireSample sample).toJson.written =
      .ok (some (.str sample.channelId.cString)) := rfl
  have htimestamp : property "timestamp" (wireSample sample).toJson.written =
      .ok (some (.str (formatTime sample.timestamp))) := rfl
  have hvalue : property "value" (wireSample sample).toJson.written =
      .ok (some (Json.num sample.value).written) := rfl
  have hunit : property "unit" (wireSample sample).toJson.written =
      .ok (some (.str sample.unit.cString)) := rfl
  have hquality : property "quality" (wireSample sample).toJson.written =
      .ok (some (.str (Sync.qualityToString sample.quality))) := rfl
  obtain ⟨bound, hbound, hreal⟩ := bind_written_num d1 sample.value
  simp only [pointStatement, hid, htimestamp, hvalue, hunit, hquality, bind, Except.bind]
  by_cases hcomplete : Complete sample
  · simp [bindPoint, truthy, hcomplete, hcomplete.1, hcomplete.2, formatTime_ne_nil,
      qualityToString_ne_nil, d1.bind_str, hbound, hreal, bind, Except.bind, pure, Except.pure,
      D1.toText, wirePoint, wireSample]
  · have hskip : sample.channelId.cString = [] ∨ sample.unit.cString = [] := by
      simpa [Complete, or_iff_not_imp_left] using hcomplete
    rcases hskip with hnil | hnil
    · simp [truthy, hcomplete, hnil, pure, Except.pure]
    · simp [truthy, hcomplete, hnil, pure, Except.pure]

theorem pointStatements_wireSample (d1 : D1) (nodeId : Bytes) :
    ∀ samples : List StoredSample,
      pointStatements d1 (.str nodeId) (samples.map fun s => (wireSample s).toJson.written) =
        .ok ((samples.filter fun s => Complete s).map (wirePoint nodeId))
  | [] => rfl
  | sample :: samples => by
      rw [List.map_cons, pointStatements, pointStatement_wireSample,
        pointStatements_wireSample d1 nodeId samples]
      by_cases hcomplete : Complete sample
      · simp [hcomplete, bind, Except.bind, pure, Except.pure]
      · simp [hcomplete, bind, Except.bind, pure, Except.pure]

/-- The Worker reads the node id and the samples from a payload of the edge. A
payload without a node id is refused. -/
theorem readPayload_payload (nodeId : Bytes) (sentAt : ℤ) (samples : List StoredSample) :
    readPayload (payload nodeId sentAt samples).written =
      .ok (if nodeId = [] then none
        else some (.str nodeId, samples.map fun s => (wireSample s).toJson.written)) := by
  have hid : property "node_id" (payload nodeId sentAt samples).written =
      .ok (some (.str nodeId)) := rfl
  have hsamples : property "samples" (payload nodeId sentAt samples).written =
      .ok (some (.arr (samples.map fun s => (wireSample s).toJson.written))) := by
    change Except.ok (some (Json.arr (Json.writtenItems _))) = _
    rw [Json.writtenItems_eq_map, List.map_map]
    rfl
  simp only [readPayload, hid, hsamples, bind, Except.bind]
  by_cases hnil : nodeId = []
  · simp [truthy, hnil, pure, Except.pure]
  · simp [truthy, hnil, pure, Except.pure]

section Handle

variable {d1 : D1} {faults : StatementFaults} {now : Bytes} {db : Database}
  {u : HttpUploader} {sentAt : ℤ} {samples : List StoredSample} {request : HttpRequest}

theorem request_body (hrequest : u.request sentAt samples = .ok request) :
    request.body = (payload u.nodeId sentAt samples).written := by
  obtain ⟨-, rfl⟩ := HttpUploader.request_eq_ok_iff.mp hrequest
  rfl

/-- What a request of the edge does to the points: all its complete samples are
inserted and it is accepted, or nothing is inserted. -/
theorem handleTelemetry_request (hrequest : u.request sentAt samples = .ok request) :
    ((handleTelemetry d1 faults now (toRequest request) db).1 = .ok 202 ∧
        (∀ s ∈ samples, Complete s → (wirePoint u.nodeId s).NotNull) ∧
        (handleTelemetry d1 faults now (toRequest request) db).2.telemetryPoints =
          db.telemetryPoints.insertAll
            ((samples.filter fun s => Complete s).map (wirePoint u.nodeId))) ∨
      ((handleTelemetry d1 faults now (toRequest request) db).1 ≠ .ok 202 ∧
        (handleTelemetry d1 faults now (toRequest request) db).2.telemetryPoints =
          db.telemetryPoints) := by
  rcases @handleTelemetry_cases d1 faults now db (toRequest request) with
    ⟨haccepted, body, nodeId, items, points, hbody, hread, hpoints, hnotNull, hrows⟩ | hrefused
  · cases hbody
    rw [request_body hrequest, readPayload_payload] at hread
    split at hread
    · cases hread
    · cases hread
      rw [pointStatements_wireSample, Except.ok.injEq] at hpoints
      subst hpoints
      refine .inl ⟨haccepted, fun s hs hcomplete => ?_, hrows⟩
      exact hnotNull _ (List.mem_map_of_mem (List.mem_filter.mpr ⟨hs, decide_eq_true hcomplete⟩))
  · exact .inr hrefused

theorem handleTelemetry_request_ne_400 (hrequest : u.request sentAt samples = .ok request)
    (hnode : u.nodeId ≠ []) :
    (handleTelemetry d1 faults now (toRequest request) db).1 ≠ .ok 400 := by
  unfold handleTelemetry
  split
  · simp
  · dsimp only [toRequest]
    rw [request_body hrequest, readPayload_payload, if_neg hnode]
    rcases @ingest_cases d1 faults now db (.str u.nodeId)
      (samples.map fun s => (wireSample s).toJson.written) with ⟨haccepted, -⟩ | ⟨⟨e, hthrown⟩, -⟩
    · simp [haccepted]
    · simp [hthrown]

/-- A key that does not end in a blank is not refused. -/
theorem authorized_request (hrequest : u.request sentAt samples = .ok request)
    (hkey : u.apiKey ≠ []) (hlast : isHttpWhitespace (u.apiKey.getLast hkey) = false) :
    authorized (toRequest request) = true := by
  have hraw : (toRequest request).authorization =
      some (Bytes.ascii "Bearer " ++ u.apiKey) := by
    obtain ⟨-, rfl⟩ := HttpUploader.request_eq_ok_iff.mp hrequest
    simp [toRequest, HttpUploader.headers, hkey]
  have hfirst : (Bytes.ascii "Bearer " ++ u.apiKey).dropWhile isHttpWhitespace =
      Bytes.ascii "Bearer " ++ u.apiKey := rfl
  have hend : (Bytes.ascii "Bearer " ++ u.apiKey).rdropWhile isHttpWhitespace =
      Bytes.ascii "Bearer " ++ u.apiKey := by
    rw [List.rdropWhile_eq_self_iff]
    intro hne
    rw [List.getLast_append_of_ne_nil _ hkey, hlast]
    exact Bool.false_ne_true
  rw [authorized, hraw]
  dsimp only
  rw [headerValue, hfirst, hend, List.isPrefixOf_iff_prefix]
  exact List.prefix_append _ _

/-- An authorized request of a node with an id is accepted when the values of its
samples are finite and no statement fails. -/
theorem handleTelemetry_request_accepted (hrequest : u.request sentAt samples = .ok request)
    (hnode : u.nodeId ≠ []) (hauthorized : authorized (toRequest request) = true)
    (hvalues : ∀ s ∈ samples, s.value.isFinite = true) :
    (handleTelemetry d1 {} now (toRequest request) db).1 = .ok 202 := by
  have hsave : saveNode d1 false now (.str u.nodeId) db =
      .ok (db.upsertNode (.text u.nodeId) (.text now)) := by
    simp [saveNode, d1.bind_str, D1.toText, bind, Except.bind, pure, Except.pure]
  unfold handleTelemetry
  rw [hauthorized]
  dsimp only [toRequest]
  rw [request_body hrequest, readPayload_payload, if_neg hnode]
  apply ingest_accepted hsave (pointStatements_wireSample d1 u.nodeId samples) rfl
  intro p hp
  obtain ⟨s, hs, rfl⟩ := List.mem_map.mp hp
  have hfinite := hvalues s (List.mem_of_mem_filter hs)
  exact ⟨by simp [wirePoint, wireSample, wireValue, hfinite, TelemetryPoint.NotNull],
    db.mem_upsertNode _ _⟩

end Handle

end Bossa.Protocol
