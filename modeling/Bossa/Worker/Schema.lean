import Bossa.Worker.Answer

/-!
# Requests that do not match the schema

A body that does not match the schema of the payload should be answered with 400, and no
body should make the handler throw. The handler throws on the payload `null`, and a payload
that passes its checks is accepted or makes it throw, whether it matches the schema or not.
No statement fails here but for what the request contains.
-/

namespace Bossa.Worker

/-- A text. -/
def IsText (value : Option Json) : Prop := ∃ s, value = some (.str s)

/-- A number. -/
def IsNumber (value : Option Json) : Prop := ∃ v, value = some (.num v)

/-- A sample as the schema describes it. -/
structure MatchesSample (sample : Json) : Prop where
  channelId : IsText (member "channel_id" sample)
  timestamp : IsText (member "timestamp" sample)
  unit : IsText (member "unit" sample)
  value : IsNumber (member "value" sample)

/-- A payload as the schema describes it. -/
structure MatchesSchema (payload : Json) : Prop where
  nodeId : IsText (member "node_id" payload)
  samples : ∃ samples, member "samples" payload = some (.arr samples) ∧
    ∀ sample ∈ samples, MatchesSample sample

/-- The value is bound as one that is not null. -/
def Bindable (d1 : D1) (value : Option Json) : Prop := ∃ v, d1.bind value = .ok v ∧ v ≠ .null

/-- The request is answered. When it is authorized and its body does not match the schema,
it is answered with 400. -/
structure Answered (d1 : D1) (now : Bytes) (request : Request) (db : Database) : Prop where
  returns : ∃ status, (handleTelemetry d1 {} now request db).1 = .ok status
  rejects : authorized request = true →
    (∀ payload, request.body = some payload → ¬ MatchesSchema payload) →
    (handleTelemetry d1 {} now request db).1 = .ok 400

/-- The samples match the schema, and of those that the loop does not skip the value and the
quality can be stored. -/
structure WellFormedBatch (d1 : D1) (nodeId : Json) (samples : List Json) : Prop where
  nodeId : IsText (some nodeId)
  sample : ∀ sample ∈ samples, MatchesSample sample
  value : ∀ sample ∈ samples, ValidSample sample → Bindable d1 (member "value" sample)
  quality : ∀ sample ∈ samples, ValidSample sample →
    truthy (member "quality" sample) = true → Bindable d1 (member "quality" sample)

section Schema

variable {d1 : D1} {now : Bytes} {request : Request} {db : Database} {nodeId sample : Json}
  {samples : List Json}

theorem IsText.bindable (d1 : D1) {value : Option Json} (h : IsText value) :
    Bindable d1 value := by
  obtain ⟨s, rfl⟩ := h
  exact ⟨.text s, d1.bind_str s, by simp⟩

theorem D1.toText_ne_null {v : SqlValue} : d1.toText v ≠ .null ↔ v ≠ .null := by
  cases v <;> simp [D1.toText]

theorem D1.toReal_ne_null {v : SqlValue} : d1.toReal v ≠ .null ↔ v ≠ .null := by
  cases v with
  | text s => cases h : d1.textNumber s <;> simp [D1.toReal, h]
  | _ => simp [D1.toReal]

/-- The row of a sample can be stored when each of its columns can. -/
theorem storable_iff {nodeId : Option Json} :
    Storable d1 nodeId sample ↔
      Bindable d1 nodeId ∧ Bindable d1 (member "channel_id" sample) ∧
        Bindable d1 (member "timestamp" sample) ∧ Bindable d1 (member "value" sample) ∧
        Bindable d1 (member "unit" sample) ∧
        Bindable d1 (if truthy (member "quality" sample) then member "quality" sample
          else some (.str (Bytes.ascii "good"))) := by
  simp only [Storable, samplePoint, bindPoint, Abort.bind_eq_ok_iff, Abort.pure_eq_ok_iff,
    TelemetryPoint.NotNull, Bindable]
  constructor
  · rintro ⟨p, ⟨n, hn, c, hc, t, ht, v, hv, u, hu, q, hq, rfl⟩, hnotNull⟩
    simp only [D1.toText_ne_null, D1.toReal_ne_null] at hnotNull
    obtain ⟨hn', hc', ht', hv', hu', hq'⟩ := hnotNull
    exact ⟨⟨n, hn, hn'⟩, ⟨c, hc, hc'⟩, ⟨t, ht, ht'⟩, ⟨v, hv, hv'⟩, ⟨u, hu, hu'⟩, ⟨q, hq, hq'⟩⟩
  · rintro ⟨⟨n, hn, hn'⟩, ⟨c, hc, hc'⟩, ⟨t, ht, ht'⟩, ⟨v, hv, hv'⟩, ⟨u, hu, hu'⟩, ⟨q, hq, hq'⟩⟩
    refine ⟨_, ⟨n, hn, c, hc, t, ht, v, hv, u, hu, q, hq, rfl⟩, ?_⟩
    simp only [D1.toText_ne_null, D1.toReal_ne_null]
    exact ⟨hn', hc', ht', hv', hu', hq'⟩

theorem ingest_returns_iff {v : SqlValue} (hv : d1.bind (some nodeId) = .ok v) :
    (∃ status, (ingest d1 {} now nodeId samples db).1 = .ok status) ↔
      Commits d1 {} nodeId samples := by
  constructor
  · rintro ⟨status, hstatus⟩
    by_contra hfails
    obtain ⟨e, he⟩ := @ingest_of_not_commits d1 {} now nodeId samples v db ⟨rfl, hv⟩ hfails
    rw [he] at hstatus
    cases hstatus
  · intro hcommits
    exact ⟨202, by rw [ingest_of_commits ⟨rfl, hv⟩ hcommits]⟩

theorem MatchesSample.ne_null (h : MatchesSample sample) : sample ≠ .null := by
  rintro rfl
  obtain ⟨s, hs⟩ := h.channelId
  cases hs

/-- A batch that matches the schema commits exactly when the values and the qualities of its
samples can be stored. -/
theorem commits_iff (hnodeId : IsText (some nodeId))
    (hsamples : ∀ sample ∈ samples, MatchesSample sample) :
    Commits d1 {} nodeId samples ↔ WellFormedBatch d1 nodeId samples := by
  constructor
  · intro h
    refine ⟨hnodeId, hsamples, fun s hs hvalid => ?_, fun s hs hvalid hquality => ?_⟩
    · exact (storable_iff.mp (h.storable s hs hvalid)).2.2.2.1
    · have hbound := (storable_iff.mp (h.storable s hs hvalid)).2.2.2.2.2
      rwa [if_pos hquality] at hbound
  · intro h
    refine ⟨fun s hs => (hsamples s hs).ne_null, fun s hs hvalid => ?_, nofun⟩
    have hmatches := hsamples s hs
    refine storable_iff.mpr ⟨hnodeId.bindable d1, hmatches.channelId.bindable d1,
      hmatches.timestamp.bindable d1, h.value s hs hvalid, hmatches.unit.bindable d1, ?_⟩
    split
    · next hquality => exact h.quality s hs hvalid hquality
    · exact IsText.bindable d1 ⟨_, rfl⟩

theorem matchesSchema_iff_of_batch {payload : Json}
    (hread : readPayload payload = .ok (some (nodeId, samples))) :
    MatchesSchema payload ↔
      IsText (some nodeId) ∧ ∀ sample ∈ samples, MatchesSample sample := by
  obtain ⟨hnodeId, -, hsamples⟩ := readPayload_eq_some_iff.mp hread
  constructor
  · rintro ⟨hid, samples', hsamples', hall⟩
    rw [hsamples] at hsamples'
    cases hsamples'
    exact ⟨hnodeId ▸ hid, hall⟩
  · rintro ⟨hid, hall⟩
    exact ⟨hnodeId ▸ hid, samples, hsamples, hall⟩

/-- A batch is answered as it should be exactly when it is well formed: a batch that does
not match the schema is accepted, or it makes the handler throw. -/
theorem answered_iff_of_batch (hbatch : request.batch? = some (nodeId, samples)) :
    Answered d1 now request db ↔ WellFormedBatch d1 nodeId samples := by
  obtain ⟨hauth, payload, hbody, hread⟩ := Request.batch?_eq_some_iff.mp hbatch
  have hschema := matchesSchema_iff_of_batch hread
  constructor
  · rintro ⟨hreturns, hrejects⟩
    rw [handleTelemetry_of_batch hbatch] at hreturns hrejects
    have hmatches : MatchesSchema payload := by
      by_contra hnot
      apply ingest_ne_400 (hrejects hauth _)
      intro payload' hbody'
      cases hbody.symm.trans hbody'
      exact hnot
    obtain ⟨hid, hall⟩ := hschema.mp hmatches
    obtain ⟨v, hv, -⟩ := hid.bindable d1
    exact (commits_iff hid hall).mp ((ingest_returns_iff hv).mp hreturns)
  · intro h
    have hmatches := hschema.mpr ⟨h.nodeId, h.sample⟩
    obtain ⟨v, hv, -⟩ := h.nodeId.bindable d1
    have hreturns := (@ingest_returns_iff d1 now db nodeId samples v hv).mpr
      ((commits_iff h.nodeId h.sample).mpr h)
    rw [← handleTelemetry_of_batch hbatch] at hreturns
    exact ⟨hreturns, fun _ hnot => absurd hmatches (hnot payload hbody)⟩

/-- A request without a batch is answered as it should be, unless its payload is `null`. -/
theorem answered_iff_of_no_batch (hbatch : request.batch? = none) :
    Answered d1 now request db ↔ (authorized request = true → request.body ≠ some .null) := by
  obtain ⟨-, -, hrejected⟩ := @handleTelemetry_of_no_batch d1 {} now request db hbatch
  constructor
  · rintro ⟨⟨status, hstatus⟩, -⟩ hauth hnull
    simp [handleTelemetry, hauth, hnull, readPayload, property, bind, Except.bind] at hstatus
  · intro hnull
    cases hauth : authorized request with
    | false =>
        refine ⟨⟨401, ?_⟩, fun hauth' => ?_⟩
        · rw [handleTelemetry, hauth]
          rfl
        · rw [hauth] at hauth'
          cases hauth'
    | true =>
        have h400 := hrejected hauth (hnull hauth)
        exact ⟨⟨400, h400⟩, fun _ _ => h400⟩

/-- A request is answered, with 400 when its body does not match the schema, exactly when its
payload is not `null` and a batch that passes the checks of the handler is well formed. -/
theorem answered_iff_wellFormed :
    Answered d1 now request db ↔
      (authorized request = true → request.body ≠ some .null) ∧
        ∀ nodeId samples, request.batch? = some (nodeId, samples) →
          WellFormedBatch d1 nodeId samples := by
  cases hbatch : request.batch? with
  | none =>
      rw [answered_iff_of_no_batch hbatch]
      simp
  | some batch =>
      obtain ⟨nodeId, samples⟩ := batch
      obtain ⟨hauth, payload, hbody, hread⟩ := Request.batch?_eq_some_iff.mp hbatch
      have hnull : request.body ≠ some .null := by
        rw [hbody]
        rintro ⟨⟩
        cases (readPayload_eq_some_iff.mp hread).1
      rw [answered_iff_of_batch hbatch]
      constructor
      · rintro h
        refine ⟨fun _ => hnull, fun nodeId' samples' heq => ?_⟩
        cases heq
        exact h
      · exact fun h => h.2 _ _ rfl

end Schema

/-- The payload `null` makes the handler throw. -/
theorem not_answered_null :
    ¬ ∀ (d1 : D1) (now : Bytes) (request : Request) (db : Database),
      Answered d1 now request db := by
  intro hclaim
  obtain ⟨⟨status, hstatus⟩, -⟩ := hclaim D1.plain []
    { authorization := some (Bytes.ascii "Bearer key"), body := some .null } .empty
  cases hstatus

end Bossa.Worker
