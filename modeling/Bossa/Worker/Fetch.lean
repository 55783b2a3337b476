import Mathlib.Data.List.Sort
import Bossa.Data.ByteOrder
import Bossa.Worker.Replay

/-!
# The routes of the Worker

`fetch` of `workers/bossa-worker/src/index.ts`. Besides the ingest endpoint there are two
probes, the two tables as JSON and the dashboard, a page that does not depend on the
request. The newest points are those that come first when the texts in the column
`timestamp` are sorted downwards; how points of the same text are ordered is left to D1,
and so it is left open here.
-/

namespace Bossa.Worker

/-- The order in which SQLite sorts values: `NULL`, numbers, texts, blobs. NaN, which it
stores as `NULL`, comes before the other numbers. -/
def SqlValue.le : SqlValue → SqlValue → Bool
  | .null, _ => true
  | .number a, .number b => a = .nan || a = b || a.lt b
  | .number _, .text _ => true
  | .number _, .blob _ => true
  | .text a, .text b => Bytes.le a b
  | .text _, .blob _ => true
  | .blob a, .blob b => Bytes.le a b
  | _, _ => false

namespace SqlValue

theorem number_le_iff {x y : Double} :
    le (.number x) (.number y) = true ↔ x = .nan ∨ x = y ∨ x.lt y = true := by
  simp [le, or_assoc]

theorem le_total (a b : SqlValue) : (a.le b || b.le a) = true := by
  rw [Bool.or_eq_true]
  cases a <;> cases b
  case number.number x y =>
    rw [number_le_iff, number_le_iff]
    cases x <;> cases y
    case finite.finite p q => rcases lt_trichotomy p q with h | h | h <;> simp [Double.lt, h]
    case infinity.infinity p q => cases p <;> cases q <;> simp [Double.lt]
    all_goals simp [Double.lt]
  case text.text s t => exact Bytes.le_total s t
  case blob.blob s t => exact Bytes.le_total s t
  all_goals simp [le]

theorem le_trans {a b c : SqlValue} (hab : a.le b = true) (hbc : b.le c = true) :
    a.le c = true := by
  have hlt : ∀ x y z : Double, x.lt y = true → y.lt z = true → x.lt z = true := by
    intro x y z hxy hyz
    cases x <;> cases y <;> cases z <;> simp_all [Double.lt]
    exact hxy.trans hyz
  cases a <;> cases b <;> cases c
  case number.number.number x y z =>
    rw [number_le_iff] at hab hbc ⊢
    rcases hab with hx | rfl | hxy
    · exact .inl hx
    · exact hbc
    · rcases hbc with rfl | rfl | hyz
      · cases x <;> simp [Double.lt] at hxy
      · exact .inr (.inr hxy)
      · exact .inr (.inr (hlt x y z hxy hyz))
  case text.text.text s t u => exact Bytes.le_trans hab hbc
  case blob.blob.blob s t u => exact Bytes.le_trans hab hbc
  all_goals simp_all [le]

end SqlValue

/-- `SELECT * FROM telemetry_points ORDER BY timestamp DESC LIMIT 100`. -/
structure NewestPoints where
  select : List TelemetryPoint → List TelemetryPoint
  subperm : ∀ rows, (select rows).Subperm rows
  length_eq : ∀ rows, (select rows).length = min 100 rows.length
  descending : ∀ rows,
    (select rows).Pairwise fun p q => q.timestamp.le p.timestamp = true
  newest : ∀ rows, ∀ p ∈ rows, p ∉ select rows →
    ∀ q ∈ select rows, p.timestamp.le q.timestamp = true

/-- The first point comes before the second one in a query for the newest. -/
def TelemetryPoint.noOlder (p q : TelemetryPoint) : Bool := q.timestamp.le p.timestamp

theorem pairwise_mergeSort_noOlder (rows : List TelemetryPoint) :
    (rows.mergeSort TelemetryPoint.noOlder).Pairwise fun p q =>
      q.timestamp.le p.timestamp = true :=
  @List.pairwise_mergeSort _ TelemetryPoint.noOlder
    (fun _ _ _ hpq hqr => SqlValue.le_trans hqr hpq)
    (fun p q => SqlValue.le_total q.timestamp p.timestamp) rows

/-- A query that keeps the points of the same text in the order of insertion. -/
def NewestPoints.stable : NewestPoints where
  select := fun rows => (rows.mergeSort TelemetryPoint.noOlder).take 100
  subperm := fun rows =>
    (List.take_sublist _ _).subperm.trans (List.mergeSort_perm rows _).subperm
  length_eq := fun rows => by simp
  descending := fun rows => (pairwise_mergeSort_noOlder rows).sublist (List.take_sublist _ _)
  newest := fun rows p hp hskipped q hq => by
    have hsorted := pairwise_mergeSort_noOlder rows
    have hrows := (List.mergeSort_perm rows TelemetryPoint.noOlder).mem_iff.mpr hp
    rw [← List.take_append_drop 100 (rows.mergeSort _)] at hsorted hrows
    rcases List.mem_append.mp hrows with hshown | hlater
    · exact absurd hshown hskipped
    · exact (List.pairwise_append.mp hsorted).2.2 q hq p hlater

/-- The request that `fetch` is called with. -/
structure FetchRequest extends Request where
  method : Bytes
  pathname : Bytes

/-- The outcomes of the statements of a call: those of the ingest endpoint, and the error
of the query of another route, if it fails. -/
structure FetchFaults extends StatementFaults where
  query : Option Bytes := none

/-- The body of a response. -/
inductive Body where
  | text (s : Bytes)
  | status (s : Bytes)
  | failure (message : Bytes)
  | nodes (rows : List EdgeNode)
  | points (rows : List TelemetryPoint)
  | dashboard
  deriving DecidableEq

/-- A response. -/
structure Response where
  status : ℕ
  body : Body
  deriving DecidableEq

namespace FetchRequest

/-- The request goes to `handleTelemetry`. -/
def isTelemetry (request : FetchRequest) : Bool :=
  request.method = Bytes.ascii "POST" && request.pathname = Bytes.ascii "/api/v1/telemetry"

def isData (request : FetchRequest) : Bool :=
  request.method = Bytes.ascii "GET" && request.pathname = Bytes.ascii "/api/v1/data"

def isNodes (request : FetchRequest) : Bool :=
  request.method = Bytes.ascii "GET" && request.pathname = Bytes.ascii "/api/v1/nodes"

end FetchRequest

/-- The response of `handleTelemetry` with a status. -/
def telemetryResponse (status : ℕ) : Response where
  status := status
  body := .text
    (if status = 401 then Bytes.ascii "Unauthorized"
    else if status = 400 then Bytes.ascii "Bad Request"
    else Bytes.ascii "Accepted")

/-- The routes of `fetch` that read. -/
def respond (newestPoints : NewestPoints) (query : Option Bytes) (request : FetchRequest)
    (db : Database) : Except Abort Response :=
  if request.method = Bytes.ascii "GET" then
    if request.pathname = Bytes.ascii "/api/v1/health" then
      .ok ⟨200, .status (Bytes.ascii "ok")⟩
    else if request.pathname = Bytes.ascii "/api/v1/health/ready" then
      match query with
      | none => .ok ⟨200, .status (Bytes.ascii "ready")⟩
      | some message => .ok ⟨500, .failure message⟩
    else if request.pathname = Bytes.ascii "/api/v1/nodes" then
      if query.isSome then .error .exception
      else .ok ⟨200, .nodes db.edgeNodes.rows⟩
    else if request.pathname = Bytes.ascii "/api/v1/data" then
      if query.isSome then .error .exception
      else .ok ⟨200, .points (newestPoints.select db.telemetryPoints.rows)⟩
    else if request.pathname = Bytes.ascii "/" then .ok ⟨200, .dashboard⟩
    else .ok ⟨404, .text (Bytes.ascii "Not Found")⟩
  else .ok ⟨404, .text (Bytes.ascii "Not Found")⟩

/-- `fetch`: the response, unless it throws, and the database. -/
def fetch (d1 : D1) (newestPoints : NewestPoints) (faults : FetchFaults) (now : Bytes)
    (request : FetchRequest) (db : Database) : Except Abort Response × Database :=
  if request.isTelemetry then
    let handled := handleTelemetry d1 faults.toStatementFaults now request.toRequest db
    (handled.1.map telemetryResponse, handled.2)
  else (respond newestPoints faults.query request db, db)

theorem respond_congr {newestPoints : NewestPoints} {query : Option Bytes}
    {request : FetchRequest} {db db' : Database} (hnodes : request.isNodes = false)
    (h : db'.telemetryPoints = db.telemetryPoints) :
    respond newestPoints query request db' = respond newestPoints query request db := by
  unfold respond
  rw [h]
  by_cases hmethod : request.method = Bytes.ascii "GET"
  · have hpath : request.pathname ≠ Bytes.ascii "/api/v1/nodes" := by
      intro hpath
      simp [FetchRequest.isNodes, hmethod, hpath] at hnodes
    rw [if_pos hmethod, if_pos hmethod, if_neg hpath, if_neg hpath]
  · rw [if_neg hmethod, if_neg hmethod]

theorem handleTelemetry_of_fetch {d1 : D1} {newestPoints : NewestPoints}
    {faults : FetchFaults} {now : Bytes} {request : FetchRequest} {db : Database}
    (htelemetry : request.isTelemetry = true) {status : ℕ} {body : Body}
    (h : (fetch d1 newestPoints faults now request db).1 = .ok ⟨status, body⟩) :
    (handleTelemetry d1 faults.toStatementFaults now request.toRequest db).1 = .ok status := by
  rw [fetch, if_pos htelemetry] at h
  dsimp only at h
  cases hhandled :
      (handleTelemetry d1 faults.toStatementFaults now request.toRequest db).1 with
  | error e =>
      rw [hhandled] at h
      cases h
  | ok status' =>
      rw [hhandled] at h
      simp only [Except.map, telemetryResponse, Except.ok.injEq, Response.mk.injEq] at h
      rw [h.1]

theorem respond_data {newestPoints : NewestPoints} {query : Option Bytes}
    {request : FetchRequest} {db : Database} (hdata : request.isData = true)
    {response : Response} (h : respond newestPoints query request db = .ok response) :
    response = ⟨200, .points (newestPoints.select db.telemetryPoints.rows)⟩ := by
  obtain ⟨hmethod, hpath⟩ : request.method = Bytes.ascii "GET" ∧
      request.pathname = Bytes.ascii "/api/v1/data" := by
    simpa [FetchRequest.isData] using hdata
  unfold respond at h
  rw [if_pos hmethod, hpath, if_neg (by decide), if_neg (by decide), if_neg (by decide),
    if_pos rfl] at h
  split at h
  · cases h
  · exact (Except.ok.inj h).symm

end Bossa.Worker
