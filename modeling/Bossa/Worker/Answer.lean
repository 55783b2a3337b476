import Bossa.Worker.Batch

/-!
# What the answer promises

The edge deletes its only copy of a batch on 202 and keeps it on every other answer
but 400. So an answer of 202 should mean that every sample of the batch has a row, and
any other outcome that nothing was written. Both hold of the handler under conditions
on the batch, which are exact.
-/

namespace Bossa.Worker

/-- The batch of a request: its node id and its samples, if it is authorized and its payload
has both. -/
def Request.batch? (request : Request) : Option (Json × List Json) :=
  if authorized request then
    request.body.bind fun payload =>
      match member "node_id" payload, member "samples" payload with
      | some nodeId, some (.arr samples) =>
          if truthy (some nodeId) then some (nodeId, samples) else none
      | _, _ => none
  else none

theorem readPayload_eq_some_iff {payload nodeId : Json} {samples : List Json} :
    readPayload payload = .ok (some (nodeId, samples)) ↔
      member "node_id" payload = some nodeId ∧ truthy (some nodeId) = true ∧
        member "samples" payload = some (.arr samples) := by
  by_cases hnull : payload = .null
  · subst hnull
    simp [readPayload, property, member, bind, Except.bind]
  · simp only [readPayload, property_eq hnull, bind, Except.bind, pure, Except.pure,
      Except.ok.injEq]
    split
    · next n l hn hl =>
        rw [hn, hl]
        split
        · next htrue =>
            simp only [Option.some.injEq, Prod.mk.injEq, Json.arr.injEq]
            constructor
            · rintro ⟨rfl, rfl⟩
              exact ⟨rfl, htrue, rfl⟩
            · rintro ⟨rfl, -, rfl⟩
              exact ⟨rfl, rfl⟩
        · next hfalse =>
            simp only [Option.some.injEq]
            constructor
            · intro h
              cases h
            · rintro ⟨rfl, htrue, -⟩
              exact absurd htrue hfalse
    · next hneither =>
        constructor
        · intro h
          cases h
        · rintro ⟨hn, -, hl⟩
          exact absurd hl (hneither nodeId samples hn)

theorem Request.batch?_eq_some_iff {request : Request} {nodeId : Json}
    {samples : List Json} :
    request.batch? = some (nodeId, samples) ↔
      authorized request = true ∧ ∃ payload, request.body = some payload ∧
        readPayload payload = .ok (some (nodeId, samples)) := by
  simp only [readPayload_eq_some_iff]
  unfold Request.batch?
  split
  · next hauth =>
      simp only [hauth, true_and, Option.bind_eq_some_iff]
      refine exists_congr fun payload => and_congr_right fun _ => ?_
      split
      · next n l hn hl =>
          rw [hn, hl]
          split
          · next htrue =>
              simp only [Option.some.injEq, Prod.mk.injEq, Json.arr.injEq]
              constructor
              · rintro ⟨rfl, rfl⟩
                exact ⟨rfl, htrue, rfl⟩
              · rintro ⟨rfl, -, rfl⟩
                exact ⟨rfl, rfl⟩
          · next hfalse =>
              simp only [reduceCtorEq, Option.some.injEq, false_iff]
              rintro ⟨rfl, htrue, -⟩
              exact hfalse htrue
      · next hneither =>
          simp only [reduceCtorEq, false_iff]
          rintro ⟨hn, -, hl⟩
          exact hneither nodeId samples hn hl
  · next hauth => simp [hauth]

section Handler

variable {d1 : D1} {faults : StatementFaults} {now : Bytes} {request : Request}
  {db : Database} {nodeId : Json} {samples : List Json}

theorem handleTelemetry_of_batch (h : request.batch? = some (nodeId, samples)) :
    handleTelemetry d1 faults now request db = ingest d1 faults now nodeId samples db := by
  obtain ⟨hauth, payload, hbody, hread⟩ := Request.batch?_eq_some_iff.mp h
  simp only [handleTelemetry, hauth, hbody, hread, Bool.not_true, Bool.false_eq_true, if_false]

/-- A request without a batch is not accepted and changes nothing. An authorized one is
answered with 400, unless its payload is `null`. -/
theorem handleTelemetry_of_no_batch (h : request.batch? = none) :
    (handleTelemetry d1 faults now request db).1 ≠ .ok 202 ∧
      (handleTelemetry d1 faults now request db).2 = db ∧
      (authorized request = true → request.body ≠ some .null →
        (handleTelemetry d1 faults now request db).1 = .ok 400) := by
  have hread : ∀ payload batch, authorized request = true → request.body = some payload →
      readPayload payload ≠ .ok (some batch) := by
    intro payload batch hauth hbody hread
    rw [Request.batch?_eq_some_iff.mpr ⟨hauth, payload, hbody, hread⟩] at h
    cases h
  unfold handleTelemetry
  split
  · next hauth =>
      exact ⟨by simp, rfl, fun hauth' => by simp [hauth'] at hauth⟩
  · next hauth =>
      rw [Bool.not_eq_true', Bool.not_eq_false] at hauth
      split
      · exact ⟨by simp, rfl, fun _ _ => rfl⟩
      · next payload hbody =>
          split
          · next e herror =>
              refine ⟨by simp, rfl, fun _ hnull => ?_⟩
              have hne : payload ≠ .null := fun heq => hnull (by rw [hbody, heq])
              simp [readPayload, property_eq hne, bind, Except.bind, pure, Except.pure]
                at herror
          · exact ⟨by simp, rfl, fun _ _ => rfl⟩
          · next batch hok => exact absurd hok (hread payload _ hauth hbody)

end Handler

/-- The answer to a request keeps the promise of the samples: on 202 every sample of
the payload has a row under its key, and when some sample cannot be stored the answer
is 400. -/
def KeepsPromise (d1 : D1) (faults : StatementFaults) (now : Bytes) (request : Request)
    (db : Database) : Prop :=
  ∀ payload, authorized request = true → request.body = some payload →
    ((handleTelemetry d1 faults now request db).1 = .ok 202 →
      ∀ sample ∈ payloadSamples payload,
        Held d1 (member "node_id" payload)
          (handleTelemetry d1 faults now request db).2.telemetryPoints sample) ∧
    ((∃ sample ∈ payloadSamples payload,
        ¬ Storable d1 (member "node_id" payload) sample) →
      (handleTelemetry d1 faults now request db).1 = .ok 400)

/-- The sample gets a row from the batch or has one already: it is not skipped, or
there is a row under its key, or a sample with its key is not skipped. -/
def Covered (d1 : D1) (nodeId : Json) (samples : List Json)
    (points : Keyed TelemetryPoint.key) (sample : Json) : Prop :=
  ValidSample sample ∨ Held d1 (some nodeId) points sample ∨
    ∃ other ∈ samples, ValidSample other ∧
      sampleKey d1 (some nodeId) other = sampleKey d1 (some nodeId) sample

/-- A statement of the request fails although its samples can be stored. -/
def StatementFails (faults : StatementFaults) (samples : List Json) : Prop :=
  faults.node = true ∨ (faults.batch = true ∧ ∃ sample ∈ samples, ValidSample sample)

section Promise

variable {d1 : D1} {faults : StatementFaults} {now : Bytes} {request : Request}
  {db : Database} {nodeId : Json} {samples : List Json} {v : SqlValue}

theorem Storable.ne_null {nodeId : Option Json} (h : Storable d1 nodeId .null) : False := by
  obtain ⟨p, hp, -⟩ := h
  simp [samplePoint, bindPoint, member, d1.bind_undefined, Abort.bind_eq_ok_iff] at hp

theorem commits_of_storable
    (hstorable : ∀ sample ∈ samples, Storable d1 (some nodeId) sample)
    (hfaults : ¬ StatementFails faults samples) : Commits d1 faults nodeId samples where
  ne_null := fun sample hsample hnull => (hnull ▸ hstorable sample hsample).ne_null
  storable := fun sample hsample _ => hstorable sample hsample
  batch := fun hbatch sample hsample hvalid =>
    hfaults (.inr ⟨hbatch, sample, hsample, hvalid⟩)

/-- After a batch of storable samples a sample has a row exactly when it is covered. -/
theorem held_insertAll_iff
    (hstorable : ∀ sample ∈ samples, Storable d1 (some nodeId) sample)
    {points : Keyed TelemetryPoint.key} {sample : Json} (hsample : sample ∈ samples) :
    Held d1 (some nodeId) (points.insertAll (validPoints d1 nodeId samples)) sample ↔
      Covered d1 nodeId samples points sample := by
  constructor
  · rintro ⟨k, hk, hkey⟩
    rcases Keyed.mem_keys_insertAll.mp hk with hold | ⟨p, hp, hpk⟩
    · exact .inr (.inl ⟨k, hold, hkey⟩)
    · obtain ⟨other, hother, hvalid, hpoint⟩ := mem_validPoints.mp hp
      refine .inr (.inr ⟨other, hother, hvalid, ?_⟩)
      rw [sampleKey_of_samplePoint hpoint, hpk, hkey]
  · have hrow : ∀ other ∈ samples, ValidSample other →
        sampleKey d1 (some nodeId) other = sampleKey d1 (some nodeId) sample →
        Held d1 (some nodeId) (points.insertAll (validPoints d1 nodeId samples)) sample := by
      intro other hother hvalid hkey
      obtain ⟨p, hp, -⟩ := hstorable other hother
      refine ⟨p.key, Keyed.key_mem_insertAll _ (mem_validPoints.mpr
        ⟨other, hother, hvalid, hp⟩), ?_⟩
      rw [← hkey, sampleKey_of_samplePoint hp]
    rintro (hvalid | ⟨k, hk, hkey⟩ | ⟨other, hother, hvalid, hkey⟩)
    · exact hrow sample hsample hvalid rfl
    · exact ⟨k, Keyed.keys_subset_insertAll _ _ hk, hkey⟩
    · exact hrow other hother hvalid hkey

theorem exists_bind_of_storable {nodeId : Option Json} {sample : Json}
    (h : Storable d1 nodeId sample) : ∃ v, d1.bind nodeId = .ok v := by
  obtain ⟨p, hp, -⟩ := h
  obtain ⟨v, hv, -⟩ := Abort.bind_eq_ok_iff.mp hp
  exact ⟨v, hv⟩

theorem ingest_ne_400 : (ingest d1 faults now nodeId samples db).1 ≠ .ok 400 := by
  rcases @ingest_cases d1 faults now db nodeId samples with ⟨h, -⟩ | ⟨⟨e, h⟩, -⟩
  · simp [h]
  · simp [h]

theorem ingest_of_statementFails (hv : d1.bind (some nodeId) = .ok v)
    (hfails : StatementFails faults samples) :
    ∃ e, (ingest d1 faults now nodeId samples db).1 = .error e := by
  cases hnode : faults.node with
  | true =>
      have hsaves : ∀ w, ¬ Saves d1 faults nodeId w := fun w hsaves => by
        rw [hsaves.1] at hnode
        cases hnode
      obtain ⟨e, he⟩ := @ingest_of_not_saves d1 faults now nodeId samples db hsaves
      exact ⟨e, by rw [he]⟩
  | false =>
      have hcommits : ¬ Commits d1 faults nodeId samples := fun hcommits => by
        rcases hfails with hnode' | ⟨hbatch, sample, hsample, hvalid⟩
        · rw [hnode] at hnode'
          cases hnode'
        · exact hcommits.batch hbatch sample hsample hvalid
      obtain ⟨e, he⟩ := @ingest_of_not_commits d1 faults now nodeId samples v db ⟨hnode, hv⟩
        hcommits
      exact ⟨e, by rw [he]⟩

/-- A batch of storable samples keeps the promise exactly when a statement fails or all
samples are covered. -/
theorem ingest_held_iff
    (hstorable : ∀ sample ∈ samples, Storable d1 (some nodeId) sample) :
    ((ingest d1 faults now nodeId samples db).1 = .ok 202 →
        ∀ sample ∈ samples, Held d1 (some nodeId)
          (ingest d1 faults now nodeId samples db).2.telemetryPoints sample) ↔
      StatementFails faults samples ∨
        ∀ sample ∈ samples, Covered d1 nodeId samples db.telemetryPoints sample := by
  by_cases hsamples : samples = []
  · simp [hsamples]
  obtain ⟨first, hfirst⟩ := List.exists_mem_of_ne_nil _ hsamples
  obtain ⟨v, hv⟩ := exists_bind_of_storable (hstorable first hfirst)
  by_cases hfails : StatementFails faults samples
  · obtain ⟨e, he⟩ := @ingest_of_statementFails d1 faults now db nodeId samples v hv hfails
    simp [he, hfails]
  · have hnode : faults.node = false := by
      by_contra hnode
      exact hfails (.inl (by simpa using hnode))
    rw [@ingest_of_commits d1 faults now nodeId samples v db ⟨hnode, hv⟩
      (commits_of_storable hstorable hfails)]
    simp only [forall_const, hfails, false_or]
    exact forall₂_congr fun sample hsample => held_insertAll_iff hstorable hsample

theorem member_of_batch {payload : Json}
    (hread : readPayload payload = .ok (some (nodeId, samples))) :
    member "node_id" payload = some nodeId ∧ payloadSamples payload = samples := by
  obtain ⟨hnodeId, -, hsamples⟩ := readPayload_eq_some_iff.mp hread
  exact ⟨hnodeId, by rw [payloadSamples, hsamples]⟩

/-- An answer keeps the promise exactly when every sample of the batch can be stored and,
unless a statement fails, is covered. -/
theorem keepsPromise_iff :
    KeepsPromise d1 faults now request db ↔
      ∀ nodeId samples, request.batch? = some (nodeId, samples) →
        (∀ sample ∈ samples, Storable d1 (some nodeId) sample) ∧
          (StatementFails faults samples ∨
            ∀ sample ∈ samples, Covered d1 nodeId samples db.telemetryPoints sample) := by
  constructor
  · intro hkeeps nodeId samples hbatch
    obtain ⟨hauth, payload, hbody, hread⟩ := Request.batch?_eq_some_iff.mp hbatch
    obtain ⟨hheld, hrefused⟩ := hkeeps payload hauth hbody
    obtain ⟨hnodeId, hsamples⟩ := member_of_batch hread
    rw [handleTelemetry_of_batch hbatch, hnodeId, hsamples] at hheld hrefused
    have hstorable : ∀ sample ∈ samples, Storable d1 (some nodeId) sample := by
      by_contra hsome
      push Not at hsome
      exact ingest_ne_400 (hrefused hsome)
    exact ⟨hstorable, (ingest_held_iff hstorable).mp hheld⟩
  · intro hcondition payload hauth hbody
    cases hbatch : request.batch? with
    | none =>
        obtain ⟨hanswer, -, hrefused⟩ := @handleTelemetry_of_no_batch d1 faults now request db
          hbatch
        refine ⟨fun haccepted => absurd haccepted hanswer, ?_⟩
        rintro ⟨sample, hsample, -⟩
        apply hrefused hauth
        rw [hbody]
        rintro ⟨⟩
        cases hsample
    | some batch =>
        obtain ⟨nodeId, samples⟩ := batch
        obtain ⟨hstorable, hcovered⟩ := hcondition nodeId samples hbatch
        obtain ⟨-, payload', hbody', hread⟩ := Request.batch?_eq_some_iff.mp hbatch
        cases hbody.symm.trans hbody'
        obtain ⟨hnodeId, hsamples⟩ := member_of_batch hread
        rw [handleTelemetry_of_batch hbatch, hnodeId, hsamples]
        refine ⟨(ingest_held_iff hstorable).mpr hcovered, ?_⟩
        rintro ⟨sample, hsample, hnot⟩
        exact absurd (hstorable sample hsample) hnot

end Promise

def batchRequest (samples : List Json) : Request where
  authorization := some (Bytes.ascii "Bearer key")
  body := some (.obj
    [(Bytes.ascii "node_id", .str (Bytes.ascii "edge-1")),
      (Bytes.ascii "samples", .arr samples)])

def unitlessSample : Json :=
  .obj
    [(Bytes.ascii "channel_id", .str (Bytes.ascii "t")),
      (Bytes.ascii "timestamp", .str (Bytes.ascii "2026-07-10T13:44:59Z")),
      (Bytes.ascii "value", .num (.finite 20)), (Bytes.ascii "unit", .str []),
      (Bytes.ascii "quality", .str (Bytes.ascii "good"))]

/-- A batch of one reading without a unit is accepted and leaves no row. -/
theorem not_keepsPromise_unitless :
    ¬ ∀ (d1 : D1) (faults : StatementFaults) (now : Bytes) (request : Request)
      (db : Database), KeepsPromise d1 faults now request db := by
  intro hclaim
  have hkeeps := hclaim D1.plain {} [] (batchRequest [unitlessSample]) .empty _
    (by decide) rfl
  obtain ⟨k, hk, -⟩ := hkeeps.1 rfl unitlessSample (List.mem_singleton_self _)
  cases hk

/-- A request that is not answered with 202 leaves both tables as they were. -/
def AllOrNothing (d1 : D1) (faults : StatementFaults) (now : Bytes) (request : Request)
    (db : Database) : Prop :=
  (handleTelemetry d1 faults now request db).1 ≠ .ok 202 →
    (handleTelemetry d1 faults now request db).2.edgeNodes = db.edgeNodes ∧
      (handleTelemetry d1 faults now request db).2.telemetryPoints = db.telemetryPoints

section AllOrNothing

variable {d1 : D1} {faults : StatementFaults} {now : Bytes} {request : Request}
  {db : Database}

theorem edgeNodes_upsertNode_eq_iff {v now : SqlValue} :
    (db.upsertNode v now).edgeNodes = db.edgeNodes ↔
      v ≠ .null ∧ ∃ node ∈ db.edgeNodes.rows, node.nodeId = v ∧ node.lastSeenAt = now := by
  unfold Database.upsertNode
  dsimp only
  rw [NullKeyed.upsert_eq_self_iff]
  refine and_congr_right fun _ => exists_congr fun node => and_congr_right fun _ => and_congr_right fun _ => ?_
  constructor
  · intro h
    rw [← h]
  · rintro rfl
    rfl

/-- A write is all or nothing exactly when, once the statement for the node succeeds,
the batch commits or the node, which is not null, was already seen at that time. -/
theorem allOrNothing_iff :
    AllOrNothing d1 faults now request db ↔
      ∀ nodeId samples v, request.batch? = some (nodeId, samples) →
        Saves d1 faults nodeId v →
        Commits d1 faults nodeId samples ∨
          d1.toText v ≠ .null ∧ ∃ node ∈ db.edgeNodes.rows,
            node.nodeId = d1.toText v ∧ node.lastSeenAt = .text now := by
  constructor
  · intro hwrite nodeId samples v hbatch hsaves
    rw [or_iff_not_imp_left]
    intro hfails
    obtain ⟨e, he⟩ := @ingest_of_not_commits d1 faults now nodeId samples v db hsaves hfails
    rw [AllOrNothing, handleTelemetry_of_batch hbatch, he] at hwrite
    exact edgeNodes_upsertNode_eq_iff.mp (hwrite (by simp)).1
  · intro hcondition hanswer
    cases hbatch : request.batch? with
    | none =>
        obtain ⟨-, hsame, -⟩ := @handleTelemetry_of_no_batch d1 faults now request db hbatch
        rw [hsame]
        exact ⟨rfl, rfl⟩
    | some batch =>
        obtain ⟨nodeId, samples⟩ := batch
        rw [handleTelemetry_of_batch hbatch] at hanswer ⊢
        by_cases hsaves : ∃ v, Saves d1 faults nodeId v
        · obtain ⟨v, hsaves⟩ := hsaves
          by_cases hcommits : Commits d1 faults nodeId samples
          · rw [ingest_of_commits hsaves hcommits] at hanswer
            exact absurd rfl hanswer
          · obtain ⟨e, he⟩ := @ingest_of_not_commits d1 faults now nodeId samples v db hsaves
              hcommits
            have hseen := (hcondition nodeId samples v hbatch hsaves).resolve_left hcommits
            rw [he]
            exact ⟨edgeNodes_upsertNode_eq_iff.mpr hseen, rfl⟩
        · obtain ⟨e, he⟩ := @ingest_of_not_saves d1 faults now nodeId samples db
            fun v hv => hsaves ⟨v, hv⟩
          rw [he]
          exact ⟨rfl, rfl⟩

end AllOrNothing

/-- A batch with a `null` among its samples makes the handler throw after the node was
saved. -/
theorem not_allOrNothing_null_sample :
    ¬ ∀ (d1 : D1) (faults : StatementFaults) (now : Bytes) (request : Request)
      (db : Database), AllOrNothing d1 faults now request db := by
  intro hclaim
  have hthrows : (handleTelemetry D1.plain {} [] (batchRequest [.null]) .empty).1 =
      .error .exception := rfl
  have hwrite := hclaim D1.plain {} [] (batchRequest [.null]) .empty (by simp [hthrows])
  have hnodes := congrArg (fun t => t.rows.length) hwrite.1
  cases hnodes

end Bossa.Worker
