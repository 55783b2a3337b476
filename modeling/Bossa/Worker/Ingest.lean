import Mathlib.Data.List.DropRight
import Bossa.Worker.Database

/-!
# The ingest endpoint

`handleTelemetry` of `workers/bossa-worker/src/index.ts`. A JavaScript value is a
JSON value, or `undefined`, which is `none`; a failure to parse the body is a
body `none`. The clock and the outcomes of the statements are arguments, and a
call that throws leaves the statements that were run before in effect.
-/

namespace Bossa.Worker

/-- The parts of a request that the handler looks at. -/
structure Request where
  authorization : Option Bytes
  body : Option Json

/-- Whether the statement for the node fails and whether the batch fails. -/
structure StatementFaults where
  node : Bool := false
  batch : Bool := false
  deriving DecidableEq, Repr

def isHttpWhitespace (c : UInt8) : Bool := c = 9 || c = 10 || c = 13 || c = 32

/-- `headers.get`: the value without the blanks around it. -/
def headerValue (raw : Bytes) : Bytes :=
  (raw.dropWhile isHttpWhitespace).rdropWhile isHttpWhitespace

/-- Property access, which throws on `null`. -/
def property (name : String) : Json → Except Abort (Option Json)
  | .null => .error .exception
  | .obj members => .ok (Json.member? (Bytes.ascii name) members)
  | _ => .ok none

def truthy : Option Json → Bool
  | none | some .null => false
  | some (.bool b) => b
  | some (.num v) => v ≠ .finite 0 && v ≠ .nan
  | some (.str s) => s ≠ []
  | some (.arr _) | some (.obj _) => true

def authorized (request : Request) : Bool :=
  match request.authorization with
  | none => false
  | some raw => (Bytes.ascii "Bearer ").isPrefixOf (headerValue raw)

/-- The node id and the samples of a payload, if it has the right members. -/
def readPayload (payload : Json) : Except Abort (Option (Json × List Json)) := do
  let nodeId ← property "node_id" payload
  let samples ← property "samples" payload
  pure
    (match nodeId, samples with
    | some nodeId, some (.arr samples) =>
        if truthy (some nodeId) then some (nodeId, samples) else none
    | _, _ => none)

/-- The values that are bound to the statement for a point, in their columns. -/
def bindPoint (d1 : D1) (nodeId channelId timestamp value unit quality : Option Json) :
    Except Abort TelemetryPoint := do
  let nodeId ← d1.bind nodeId
  let channelId ← d1.bind channelId
  let timestamp ← d1.bind timestamp
  let value ← d1.bind value
  let unit ← d1.bind unit
  let quality ← d1.bind quality
  pure
    { nodeId := d1.toText nodeId
      channelId := d1.toText channelId
      timestamp := d1.toText timestamp
      value := d1.toReal value
      unit := d1.toText unit
      quality := d1.toText quality }

/-- The statement for a sample. An incomplete sample has none. -/
def pointStatement (d1 : D1) (nodeId sample : Json) :
    Except Abort (Option TelemetryPoint) := do
  let channelId ← property "channel_id" sample
  let timestamp ← property "timestamp" sample
  let value ← property "value" sample
  let unit ← property "unit" sample
  let quality ← property "quality" sample
  if !truthy channelId || !truthy timestamp || value.isNone || !truthy unit then pure none
  else
    some <$> bindPoint d1 (some nodeId) channelId timestamp value unit
      (if truthy quality then quality else some (.str (Bytes.ascii "good")))

/-- The loop over the samples. -/
def pointStatements (d1 : D1) (nodeId : Json) : List Json → Except Abort (List TelemetryPoint)
  | [] => pure []
  | sample :: samples => do
      let point ← pointStatement d1 nodeId sample
      let points ← pointStatements d1 nodeId samples
      pure (point.toList ++ points)

def saveNode (d1 : D1) (fault : Bool) (now : Bytes) (nodeId : Json) (db : Database) :
    Except Abort Database := do
  let nodeId ← d1.bind (some nodeId)
  if fault then .error .exception
  else pure (db.upsertNode (d1.toText nodeId) (.text now))

/-- The part of `handleTelemetry` behind the checks: the status, unless it throws,
and the database. -/
def ingest (d1 : D1) (faults : StatementFaults) (now : Bytes) (nodeId : Json)
    (samples : List Json) (db : Database) : Except Abort ℕ × Database :=
  match saveNode d1 faults.node now nodeId db with
  | .error e => (.error e, db)
  | .ok db =>
      match pointStatements d1 nodeId samples with
      | .error e => (.error e, db)
      | .ok [] => (.ok 202, db)
      | .ok points =>
          match db.batch faults.batch points with
          | .error e => (.error e, db)
          | .ok db => (.ok 202, db)

/-- `handleTelemetry`: the status of the response, unless it throws, and the
database. -/
def handleTelemetry (d1 : D1) (faults : StatementFaults) (now : Bytes) (request : Request)
    (db : Database) : Except Abort ℕ × Database :=
  if !authorized request then (.ok 401, db)
  else
    match request.body with
    | none => (.ok 400, db)
    | some payload =>
        match readPayload payload with
        | .error e => (.error e, db)
        | .ok none => (.ok 400, db)
        | .ok (some (nodeId, samples)) => ingest d1 faults now nodeId samples db

variable {d1 : D1} {faults : StatementFaults} {now : Bytes} {db : Database}

theorem saveNode_telemetryPoints {fault : Bool} {nodeId : Json} {db' : Database}
    (h : saveNode d1 fault now nodeId db = .ok db') :
    db'.telemetryPoints = db.telemetryPoints := by
  obtain ⟨v, -, h⟩ := Abort.bind_eq_ok_iff.mp h
  split at h
  · cases h
  · cases h
    rfl

/-- The points are inserted when the request is accepted, and otherwise they stay
as they are. -/
theorem ingest_cases {nodeId : Json} {samples : List Json} :
    ((ingest d1 faults now nodeId samples db).1 = .ok 202 ∧ ∃ points,
        pointStatements d1 nodeId samples = .ok points ∧ (∀ p ∈ points, p.NotNull) ∧
        (ingest d1 faults now nodeId samples db).2.telemetryPoints =
          db.telemetryPoints.insertAll points) ∨
      ((∃ e, (ingest d1 faults now nodeId samples db).1 = .error e) ∧
        (ingest d1 faults now nodeId samples db).2.telemetryPoints =
          db.telemetryPoints) := by
  unfold ingest
  split
  · exact .inr ⟨⟨_, rfl⟩, rfl⟩
  · next db' hsave =>
      have hsaved := saveNode_telemetryPoints hsave
      split
      · exact .inr ⟨⟨_, rfl⟩, hsaved⟩
      · next hpoints => exact .inl ⟨rfl, [], hpoints, by simp, hsaved⟩
      · next points _ hpoints =>
          split
          · exact .inr ⟨⟨_, rfl⟩, hsaved⟩
          · next db'' hbatch =>
              obtain ⟨-, hnotNull, rfl⟩ := Database.batch_eq_ok_iff.mp hbatch
              exact .inl ⟨rfl, points, hpoints, fun p hp => (hnotNull p hp).1,
                by rw [hsaved]⟩

/-- A request is accepted when its statements can be prepared and violate no
constraint. -/
theorem ingest_accepted {nodeId : Json} {samples : List Json} {db' : Database}
    {points : List TelemetryPoint} (hsave : saveNode d1 faults.node now nodeId db = .ok db')
    (hpoints : pointStatements d1 nodeId samples = .ok points) (hbatch : faults.batch = false)
    (hvalid : ∀ p ∈ points, p.NotNull ∧ p.nodeId ∈ db'.edgeNodes.keys) :
    (ingest d1 faults now nodeId samples db).1 = .ok 202 := by
  have hinserted := Database.batch_eq_ok_iff.mpr ⟨hbatch, hvalid, rfl⟩
  unfold ingest
  rw [hsave]
  dsimp only
  rw [hpoints]
  cases points with
  | nil => rfl
  | cons p points =>
      dsimp only
      rw [hinserted]

/-- What a request does to the points. It inserts the statements of its samples
and is accepted, or it changes nothing. -/
theorem handleTelemetry_cases {request : Request} :
    ((handleTelemetry d1 faults now request db).1 = .ok 202 ∧
        ∃ payload nodeId samples points, request.body = some payload ∧
          readPayload payload = .ok (some (nodeId, samples)) ∧
          pointStatements d1 nodeId samples = .ok points ∧ (∀ p ∈ points, p.NotNull) ∧
          (handleTelemetry d1 faults now request db).2.telemetryPoints =
            db.telemetryPoints.insertAll points) ∨
      ((handleTelemetry d1 faults now request db).1 ≠ .ok 202 ∧
        (handleTelemetry d1 faults now request db).2.telemetryPoints =
          db.telemetryPoints) := by
  unfold handleTelemetry
  split
  · exact .inr ⟨by simp, rfl⟩
  · split
    · exact .inr ⟨by simp, rfl⟩
    · next payload hbody =>
        split
        · exact .inr ⟨by simp, rfl⟩
        · exact .inr ⟨by simp, rfl⟩
        · next nodeId samples hread =>
            rcases @ingest_cases d1 faults now db nodeId samples with
              ⟨haccepted, points, hpoints, hnotNull, hrows⟩ | ⟨⟨e, hthrown⟩, hrows⟩
            · exact .inl ⟨haccepted, payload, nodeId, samples, points, hbody, hread, hpoints,
                hnotNull, hrows⟩
            · exact .inr ⟨by simp [hthrown], hrows⟩

theorem handleTelemetry_status {request : Request} {status : ℕ}
    (h : (handleTelemetry d1 faults now request db).1 = .ok status) :
    status = 202 ∨ status = 400 ∨ status = 401 := by
  unfold handleTelemetry at h
  split at h
  · cases h
    exact .inr (.inr rfl)
  · split at h
    · cases h
      exact .inr (.inl rfl)
    · split at h
      · cases h
      · cases h
        exact .inr (.inl rfl)
      · next nodeId samples _ =>
          rcases @ingest_cases d1 faults now db nodeId samples with
            ⟨haccepted, -⟩ | ⟨⟨e, hthrown⟩, -⟩
          · rw [haccepted] at h
            cases h
            exact .inl rfl
          · rw [hthrown] at h
            cases h

end Bossa.Worker
