import Bossa.Worker.Ingest

/-!
# What becomes of a batch

The handler looks at the samples of a batch one by one and hands the rows it makes of
them to D1 together. Here is what a single sample amounts to: whether the loop skips
it, whether the table can hold its row, and under which key. From that follow the
answer to a batch and the database it leaves.
-/

namespace Bossa.Worker

/-- A member of a JavaScript value that is not `null`. -/
def member (name : String) : Json → Option Json
  | .obj members => Json.member? (Bytes.ascii name) members
  | _ => none

def payloadSamples (payload : Json) : List Json :=
  match member "samples" payload with
  | some (.arr samples) => samples
  | _ => []

/-- The check of the loop: a sample that fails it is skipped. -/
def ValidSample (sample : Json) : Prop :=
  truthy (member "channel_id" sample) = true ∧ truthy (member "timestamp" sample) = true ∧
    (member "value" sample).isSome = true ∧ truthy (member "unit" sample) = true

instance (sample : Json) : Decidable (ValidSample sample) :=
  inferInstanceAs (Decidable (_ ∧ _))

/-- The row of a sample, whether or not the loop skips it. -/
def samplePoint (d1 : D1) (nodeId : Option Json) (sample : Json) :
    Except Abort TelemetryPoint :=
  bindPoint d1 nodeId (member "channel_id" sample) (member "timestamp" sample)
    (member "value" sample) (member "unit" sample)
    (if truthy (member "quality" sample) then member "quality" sample
      else some (.str (Bytes.ascii "good")))

def sampleKey (d1 : D1) (nodeId : Option Json) (sample : Json) : Except Abort PointKey := do
  let nodeId ← d1.bind nodeId
  let channelId ← d1.bind (member "channel_id" sample)
  let timestamp ← d1.bind (member "timestamp" sample)
  pure ⟨d1.toText nodeId, d1.toText channelId, d1.toText timestamp⟩

/-- The table can hold the row of the sample. -/
def Storable (d1 : D1) (nodeId : Option Json) (sample : Json) : Prop :=
  ∃ point, samplePoint d1 nodeId sample = .ok point ∧ point.NotNull

/-- A table has a row under the key of the sample. -/
def Held (d1 : D1) (nodeId : Option Json) (points : Keyed TelemetryPoint.key)
    (sample : Json) : Prop :=
  ∃ k ∈ points.keys, sampleKey d1 nodeId sample = .ok k

/-- The rows of the samples that the loop does not skip. -/
def validPoints (d1 : D1) (nodeId : Json) (samples : List Json) : List TelemetryPoint :=
  samples.filterMap fun sample =>
    if ValidSample sample then (samplePoint d1 (some nodeId) sample).toOption else none

/-- The statement for the node succeeds, with the node id as it is bound. -/
def Saves (d1 : D1) (faults : StatementFaults) (nodeId : Json) (v : SqlValue) : Prop :=
  faults.node = false ∧ d1.bind (some nodeId) = .ok v

/-- The statements for the samples can be prepared and succeed. -/
structure Commits (d1 : D1) (faults : StatementFaults) (nodeId : Json)
    (samples : List Json) : Prop where
  ne_null : ∀ sample ∈ samples, sample ≠ .null
  storable : ∀ sample ∈ samples, ValidSample sample → Storable d1 (some nodeId) sample
  batch : faults.batch = true → ∀ sample ∈ samples, ¬ ValidSample sample

instance (d1 : D1) (nodeId : Option Json) (sample : Json) :
    Decidable (Storable d1 nodeId sample) :=
  match h : samplePoint d1 nodeId sample with
  | .error _ => isFalse fun ⟨_, hp, _⟩ => nomatch h.symm.trans hp
  | .ok p =>
      decidable_of_iff p.NotNull
        ⟨fun hp => ⟨p, h, hp⟩, fun ⟨_, hp', hp⟩ => Except.ok.inj (h.symm.trans hp') ▸ hp⟩

instance (d1 : D1) (faults : StatementFaults) (nodeId : Json) (samples : List Json) :
    Decidable (Commits d1 faults nodeId samples) :=
  decidable_of_iff
    ((∀ sample ∈ samples, sample ≠ .null) ∧
      (∀ sample ∈ samples, ValidSample sample → Storable d1 (some nodeId) sample) ∧
      (faults.batch = true → ∀ sample ∈ samples, ¬ ValidSample sample))
    ⟨fun h => ⟨h.1, h.2.1, h.2.2⟩, fun h => ⟨h.ne_null, h.storable, h.batch⟩⟩

theorem property_eq {sample : Json} (h : sample ≠ .null) (name : String) :
    property name sample = .ok (member name sample) := by
  cases sample with
  | null => exact absurd rfl h
  | _ => rfl

theorem pointStatement_null (d1 : D1) (nodeId : Json) :
    pointStatement d1 nodeId .null = .error .exception := rfl

theorem pointStatement_of_valid {d1 : D1} {nodeId sample : Json} (h : sample ≠ .null)
    (hvalid : ValidSample sample) :
    pointStatement d1 nodeId sample = some <$> samplePoint d1 (some nodeId) sample := by
  obtain ⟨hid, htimestamp, hvalue, hunit⟩ := hvalid
  have hnone : (member "value" sample).isNone = false := by
    rw [← Option.not_isSome, hvalue]
    rfl
  simp only [pointStatement, property_eq h, bind, Except.bind, hid, htimestamp, hnone, hunit]
  rfl

theorem pointStatement_of_not_valid {d1 : D1} {nodeId sample : Json} (h : sample ≠ .null)
    (hskip : ¬ ValidSample sample) : pointStatement d1 nodeId sample = .ok none := by
  have hcheck : (!truthy (member "channel_id" sample) ||
      !truthy (member "timestamp" sample) || (member "value" sample).isNone ||
      !truthy (member "unit" sample)) = true := by
    by_contra hpass
    apply hskip
    simpa [ValidSample, and_assoc, Option.isSome_iff_ne_none] using hpass
  simp only [pointStatement, property_eq h, bind, Except.bind, hcheck]
  rfl

/-- The statement for a sample can be prepared unless the sample is `null` or is not
skipped and cannot be bound. -/
theorem pointStatement_eq_ok_iff {d1 : D1} {nodeId sample : Json}
    {point : Option TelemetryPoint} :
    pointStatement d1 nodeId sample = .ok point ↔
      (sample ≠ .null ∧
        (ValidSample sample → ∃ p, samplePoint d1 (some nodeId) sample = .ok p)) ∧
      point =
        if ValidSample sample then (samplePoint d1 (some nodeId) sample).toOption else none := by
  by_cases hnull : sample = .null
  · simp [hnull, pointStatement_null]
  by_cases hvalid : ValidSample sample
  · rw [pointStatement_of_valid hnull hvalid]
    cases hpoint : samplePoint d1 (some nodeId) sample with
    | error e => simp [hvalid, Functor.map, Except.map]
    | ok p => simp [hnull, hvalid, Functor.map, Except.map, Except.toOption, eq_comm]
  · rw [pointStatement_of_not_valid hnull hvalid]
    simp [hnull, hvalid, eq_comm]

theorem validPoints_cons (d1 : D1) (nodeId sample : Json) (samples : List Json) :
    validPoints d1 nodeId (sample :: samples) =
      (if ValidSample sample then (samplePoint d1 (some nodeId) sample).toOption
        else none).toList ++ validPoints d1 nodeId samples := by
  unfold validPoints
  rw [List.filterMap_cons]
  split
  · next h => simp only [h, Option.toList_none, List.nil_append]
  · next p h => simp only [h, Option.toList_some, List.singleton_append]

theorem pointStatements_eq_ok_iff {d1 : D1} {nodeId : Json} :
    ∀ {samples : List Json} {points : List TelemetryPoint},
      pointStatements d1 nodeId samples = .ok points ↔
        (∀ sample ∈ samples, sample ≠ .null ∧
          (ValidSample sample → ∃ p, samplePoint d1 (some nodeId) sample = .ok p)) ∧
        points = validPoints d1 nodeId samples
  | [], points => by
      simp [pointStatements, validPoints, pure, Except.pure, eq_comm]
  | sample :: samples, points => by
      rw [pointStatements]
      simp only [Abort.bind_eq_ok_iff, Abort.pure_eq_ok_iff, pointStatement_eq_ok_iff,
        pointStatements_eq_ok_iff, List.forall_mem_cons, validPoints_cons]
      constructor
      · rintro ⟨_, ⟨hsample, rfl⟩, _, ⟨hsamples, rfl⟩, rfl⟩
        exact ⟨⟨hsample, hsamples⟩, rfl⟩
      · rintro ⟨⟨hsample, hsamples⟩, rfl⟩
        exact ⟨_, ⟨hsample, rfl⟩, _, ⟨hsamples, rfl⟩, rfl⟩

theorem mem_validPoints {d1 : D1} {nodeId : Json} {samples : List Json}
    {p : TelemetryPoint} :
    p ∈ validPoints d1 nodeId samples ↔
      ∃ sample ∈ samples, ValidSample sample ∧
        samplePoint d1 (some nodeId) sample = .ok p := by
  have hoption : ∀ x : Except Abort TelemetryPoint, x.toOption = some p ↔ x = .ok p := by
    intro x
    cases x <;> simp [Except.toOption]
  simp [validPoints, hoption]

theorem validPoints_eq_nil_iff {d1 : D1} {nodeId : Json} {samples : List Json}
    (h : ∀ sample ∈ samples, ValidSample sample →
      ∃ p, samplePoint d1 (some nodeId) sample = .ok p) :
    validPoints d1 nodeId samples = [] ↔ ∀ sample ∈ samples, ¬ ValidSample sample := by
  rw [List.eq_nil_iff_forall_not_mem]
  constructor
  · intro hnil sample hsample hvalid
    obtain ⟨p, hp⟩ := h sample hsample hvalid
    exact hnil p (mem_validPoints.mpr ⟨sample, hsample, hvalid, hp⟩)
  · intro hskip p hp
    obtain ⟨sample, hsample, hvalid, -⟩ := mem_validPoints.mp hp
    exact hskip sample hsample hvalid

theorem samplePoint_nodeId {d1 : D1} {nodeId : Option Json} {sample : Json} {v : SqlValue}
    {p : TelemetryPoint} (hbind : d1.bind nodeId = .ok v)
    (h : samplePoint d1 nodeId sample = .ok p) : p.nodeId = d1.toText v := by
  simp only [samplePoint, bindPoint, Abort.bind_eq_ok_iff, Abort.pure_eq_ok_iff] at h
  obtain ⟨v', hv', -, -, -, -, -, -, -, -, -, -, rfl⟩ := h
  rw [hbind] at hv'
  cases hv'
  rfl

theorem sampleKey_of_samplePoint {d1 : D1} {nodeId : Option Json} {sample : Json}
    {p : TelemetryPoint} (h : samplePoint d1 nodeId sample = .ok p) :
    sampleKey d1 nodeId sample = .ok p.key := by
  simp only [samplePoint, bindPoint, Abort.bind_eq_ok_iff, Abort.pure_eq_ok_iff] at h
  obtain ⟨n, hn, c, hc, t, ht, -, -, -, -, -, -, rfl⟩ := h
  simp only [sampleKey, hn, hc, ht, bind, Except.bind, pure, Except.pure]
  rfl

section Ingest

variable {d1 : D1} {faults : StatementFaults} {now : Bytes} {nodeId : Json}
  {samples : List Json} {v : SqlValue} {db : Database}

theorem saveNode_of_saves (hsaves : Saves d1 faults nodeId v) :
    saveNode d1 faults.node now nodeId db =
      .ok (db.upsertNode (d1.toText v) (.text now)) := by
  unfold saveNode
  rw [hsaves.1, hsaves.2]
  rfl

theorem ingest_of_not_saves (hsaves : ∀ v, ¬ Saves d1 faults nodeId v) :
    ∃ e, ingest d1 faults now nodeId samples db = (.error e, db) := by
  unfold ingest
  split
  · exact ⟨_, rfl⟩
  · next hsave =>
      obtain ⟨v, hv, hsave⟩ := Abort.bind_eq_ok_iff.mp hsave
      split at hsave
      · cases hsave
      · next hfault => exact absurd ⟨by simpa using hfault, hv⟩ (hsaves v)

/-- A batch that commits is accepted, and its valid samples are inserted. -/
theorem ingest_of_commits (hsaves : Saves d1 faults nodeId v)
    (hcommits : Commits d1 faults nodeId samples) :
    ingest d1 faults now nodeId samples db =
      (.ok 202,
        { db.upsertNode (d1.toText v) (.text now) with
          telemetryPoints := db.telemetryPoints.insertAll (validPoints d1 nodeId samples) }) := by
  have hbound : ∀ sample ∈ samples, ValidSample sample →
      ∃ p, samplePoint d1 (some nodeId) sample = .ok p := fun sample hsample hvalid =>
    (hcommits.storable sample hsample hvalid).imp fun _ hp => hp.1
  have hpoints : pointStatements d1 nodeId samples = .ok (validPoints d1 nodeId samples) :=
    pointStatements_eq_ok_iff.mpr
      ⟨fun sample hsample => ⟨hcommits.ne_null sample hsample, hbound sample hsample⟩, rfl⟩
  unfold ingest
  rw [saveNode_of_saves hsaves]
  dsimp only
  rw [hpoints]
  split
  · cases ‹Except.ok _ = Except.error _›
  · next hnil =>
      rw [Except.ok.inj hnil]
      rfl
  · next points hne hok =>
      cases Except.ok.inj hok
      have hfault : faults.batch = false := by
        by_contra hfault
        refine hne ((validPoints_eq_nil_iff hbound).mpr (hcommits.batch ?_))
        simpa using hfault
      have hvalid : ∀ p ∈ validPoints d1 nodeId samples, p.NotNull ∧
          p.nodeId ∈ (db.upsertNode (d1.toText v) (.text now)).edgeNodes.keys := by
        intro p hp
        obtain ⟨sample, hsample, hcheck, hpoint⟩ := mem_validPoints.mp hp
        obtain ⟨p', hp', hnotNull⟩ := hcommits.storable sample hsample hcheck
        rw [hpoint] at hp'
        cases hp'
        rw [samplePoint_nodeId hsaves.2 hpoint]
        exact ⟨hnotNull, Database.mem_upsertNode _ _ _⟩
      rw [Database.batch_eq_ok_iff.mpr ⟨hfault, hvalid, rfl⟩]
      rfl

/-- When the batch does not commit the handler throws, with the node saved. -/
theorem ingest_of_not_commits (hsaves : Saves d1 faults nodeId v)
    (hfails : ¬ Commits d1 faults nodeId samples) :
    ∃ e, ingest d1 faults now nodeId samples db =
      (.error e, db.upsertNode (d1.toText v) (.text now)) := by
  unfold ingest
  rw [saveNode_of_saves hsaves]
  dsimp only
  split
  · exact ⟨_, rfl⟩
  · next hok =>
      obtain ⟨hsamples, hnil⟩ := pointStatements_eq_ok_iff.mp hok
      have hskip := (validPoints_eq_nil_iff fun s hs => (hsamples s hs).2).mp hnil.symm
      exact absurd
        { ne_null := fun s hs => (hsamples s hs).1
          storable := fun s hs hvalid => absurd hvalid (hskip s hs)
          batch := fun _ => hskip } hfails
  · next points _ hok =>
      obtain ⟨hsamples, rfl⟩ := pointStatements_eq_ok_iff.mp hok
      split
      · exact ⟨_, rfl⟩
      · next hbatch =>
          obtain ⟨hfault, hnotNull, -⟩ := Database.batch_eq_ok_iff.mp hbatch
          refine absurd
            { ne_null := fun s hs => (hsamples s hs).1
              storable := fun s hs hvalid => ?_
              batch := fun htrue => ?_ } hfails
          · obtain ⟨p, hp⟩ := (hsamples s hs).2 hvalid
            exact ⟨p, hp, (hnotNull p (mem_validPoints.mpr ⟨s, hs, hvalid, hp⟩)).1⟩
          · rw [hfault] at htrue
            cases htrue

end Ingest

end Bossa.Worker
