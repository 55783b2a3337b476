import Bossa.Core.Abort
import Bossa.Data.Bytes
import Bossa.Data.Double
import Bossa.Data.Json
import Bossa.Data.Keyed

/-!
# The database of the Worker

The schema of `workers/bossa-worker/schema.sql` and the D1 interface the Worker
uses. D1 converts a JavaScript value to a value of SQLite when it is bound to a
statement, and SQLite converts that value once more to the type of its column.
What is documented of these conversions is part of `D1`, what is not is left
open. The columns `created_at` and `received_at`, which no statement of the
Worker names, are left out.
-/

namespace Bossa.Worker

/-- A value of SQLite; integers and reals are not told apart. -/
inductive SqlValue where
  | null
  | number (v : Double)
  | text (s : Bytes)
  | blob (b : Bytes)
  deriving DecidableEq, Repr

/-- The conversions of D1: of a JavaScript value that is bound to a parameter
(`none` is `undefined`), of a number in a text column and of a text in a numeric
column. Binding throws on `undefined` and on a plain object. -/
structure D1 where
  bind : Option Json → Except Abort SqlValue
  numberText : Double → Bytes
  textNumber : Bytes → Option Double
  bind_undefined : bind none = .error .exception
  bind_null : bind (some .null) = .ok .null
  bind_bool : ∀ b : Bool, bind (some (.bool b)) = .ok (.number (.finite (if b then 1 else 0)))
  bind_num : ∀ q : ℚ, bind (some (.num (.finite q))) = .ok (.number (.finite q))
  bind_str : ∀ s : Bytes, bind (some (.str s)) = .ok (.text s)
  bind_obj : ∀ members, bind (some (.obj members)) = .error .exception

namespace D1

/-- A value in a column of type `TEXT`. -/
def toText (d1 : D1) : SqlValue → SqlValue
  | .number v => .text (d1.numberText v)
  | v => v

/-- A value in a column of type `REAL`. -/
def toReal (d1 : D1) : SqlValue → SqlValue
  | .text s => (d1.textNumber s).elim (.text s) .number
  | v => v

theorem toText_ne_number (d1 : D1) (v : SqlValue) (x : Double) : d1.toText v ≠ .number x := by
  cases v <;> simp [toText]

theorem textNumber_of_toReal (d1 : D1) {v : SqlValue} {s : Bytes}
    (h : d1.toReal v = .text s) : d1.textNumber s = none := by
  cases v with
  | text t =>
      rw [toReal] at h
      cases hnumber : d1.textNumber t with
      | none =>
          rw [hnumber] at h
          cases h
          exact hnumber
      | some x =>
          rw [hnumber] at h
          cases h
  | null => cases h
  | number x => cases h
  | blob b => cases h

/-- A D1 that binds no arrays, writes whole numbers as text and takes no text for a
number. -/
def plain : D1 where
  bind
    | none | some (.arr _) | some (.obj _) => .error .exception
    | some .null => .ok .null
    | some (.bool b) => .ok (.number (.finite (if b then 1 else 0)))
    | some (.num v) => .ok (.number v)
    | some (.str s) => .ok (.text s)
  numberText
    | .finite q => Bytes.decimalInt q.floor ++ Bytes.ascii ".0"
    | .infinity negative => Bytes.ascii (if negative then "-Inf" else "Inf")
    | .nan => []
  textNumber := fun _ => none
  bind_undefined := rfl
  bind_null := rfl
  bind_bool := fun _ => rfl
  bind_num := fun _ => rfl
  bind_str := fun _ => rfl
  bind_obj := fun _ => rfl

end D1

/-- A row of `edge_nodes`. -/
structure EdgeNode where
  nodeId : SqlValue
  apiKeyHash : SqlValue
  lastSeenAt : SqlValue
  deriving DecidableEq, Repr

/-- The primary key of `telemetry_points`. -/
structure PointKey where
  nodeId : SqlValue
  channelId : SqlValue
  timestamp : SqlValue
  deriving DecidableEq, Repr

/-- A row of `telemetry_points`. -/
structure TelemetryPoint where
  nodeId : SqlValue
  channelId : SqlValue
  timestamp : SqlValue
  value : SqlValue
  unit : SqlValue
  quality : SqlValue
  deriving DecidableEq, Repr

namespace TelemetryPoint

def key (p : TelemetryPoint) : PointKey := ⟨p.nodeId, p.channelId, p.timestamp⟩

/-- The columns declared `NOT NULL`. -/
def NotNull (p : TelemetryPoint) : Prop :=
  p.nodeId ≠ .null ∧ p.channelId ≠ .null ∧ p.timestamp ≠ .null ∧ p.value ≠ .null ∧
    p.unit ≠ .null ∧ p.quality ≠ .null

instance (p : TelemetryPoint) : Decidable p.NotNull := inferInstanceAs (Decidable (_ ∧ _))

/-- The values have been converted to the types of their columns. -/
structure Typed (d1 : D1) (p : TelemetryPoint) : Prop where
  texts : ∀ v ∈ [p.nodeId, p.channelId, p.timestamp, p.unit, p.quality], ∀ x, v ≠ .number x
  value : ∀ s, p.value = .text s → d1.textNumber s = none

end TelemetryPoint

/-- The two tables. The primary key of the nodes is not declared `NOT NULL`, and SQLite
takes no null for equal to another. -/
structure Database where
  edgeNodes : NullKeyed SqlValue.null EdgeNode.nodeId
  telemetryPoints : Keyed TelemetryPoint.key

namespace Database

def empty : Database := ⟨.empty, .empty⟩

instance : Inhabited Database := ⟨empty⟩

/-- The statement that inserts a node or marks it as seen at the given time. -/
def upsertNode (nodeId now : SqlValue) (db : Database) : Database :=
  { db with
    edgeNodes := db.edgeNodes.upsert ⟨nodeId, .text (Bytes.ascii "fake_hash"), now⟩
      (fun node => { node with lastSeenAt := now }) fun _ => rfl }

/-- The statement that inserts a point unless its key is taken. It fails on a
null in a column that must not be null and on a node that is not known. -/
def insertPoint (db : Database) (point : TelemetryPoint) : Except Abort Database :=
  if point.NotNull ∧ point.nodeId ∈ db.edgeNodes.keys then
    .ok { db with telemetryPoints := db.telemetryPoints.insertNew point }
  else .error .exception

/-- `DB.batch`: all the statements take effect or none. -/
def batch (fault : Bool) (points : List TelemetryPoint) (db : Database) :
    Except Abort Database :=
  if fault then .error .exception else points.foldlM insertPoint db

theorem mem_upsertNode (nodeId now : SqlValue) (db : Database) :
    nodeId ∈ (db.upsertNode nodeId now).edgeNodes.keys :=
  db.edgeNodes.key_mem_upsert ⟨nodeId, .text (Bytes.ascii "fake_hash"), now⟩
    (fun node => { node with lastSeenAt := now }) fun _ => rfl

theorem mem_keys_upsertNode {nodeId now k : SqlValue} {db : Database} :
    k ∈ (db.upsertNode nodeId now).edgeNodes.keys ↔ k = nodeId ∨ k ∈ db.edgeNodes.keys :=
  db.edgeNodes.mem_keys_upsert ⟨nodeId, .text (Bytes.ascii "fake_hash"), now⟩
    (fun node => { node with lastSeenAt := now }) fun _ => rfl

theorem mem_rows_upsertNode {nodeId now : SqlValue} {db : Database} {node : EdgeNode}
    (h : node ∈ (db.upsertNode nodeId now).edgeNodes.rows) :
    node = ⟨nodeId, .text (Bytes.ascii "fake_hash"), now⟩ ∨
      ∃ n ∈ db.edgeNodes.rows, node = { n with lastSeenAt := now } ∨ node = n :=
  db.edgeNodes.mem_upsert ⟨nodeId, .text (Bytes.ascii "fake_hash"), now⟩
    (fun node => { node with lastSeenAt := now }) (fun _ => rfl) h

theorem insertPoint_eq_ok_iff {db db' : Database} {point : TelemetryPoint} :
    db.insertPoint point = .ok db' ↔
      (point.NotNull ∧ point.nodeId ∈ db.edgeNodes.keys) ∧
        db' = { db with telemetryPoints := db.telemetryPoints.insertNew point } := by
  unfold insertPoint
  split
  · next h => simp [h, eq_comm]
  · next h => simp [h]

/-- A sequence of insertions succeeds exactly when none of its rows violates a
constraint, and then it inserts them in their order. -/
theorem foldlM_insertPoint_eq_ok_iff {db' : Database} :
    ∀ {points : List TelemetryPoint} {db : Database},
      points.foldlM insertPoint db = .ok db' ↔
        (∀ p ∈ points, p.NotNull ∧ p.nodeId ∈ db.edgeNodes.keys) ∧
          db' = { db with telemetryPoints := db.telemetryPoints.insertAll points }
  | [], db => by simp [pure, Except.pure, eq_comm]
  | point :: points, db => by
      simp only [List.foldlM_cons, Abort.bind_eq_ok_iff, insertPoint_eq_ok_iff,
        List.forall_mem_cons, Keyed.insertAll_cons]
      constructor
      · rintro ⟨_, ⟨hpoint, rfl⟩, hrest⟩
        obtain ⟨hpoints, rfl⟩ := foldlM_insertPoint_eq_ok_iff.mp hrest
        exact ⟨⟨hpoint, hpoints⟩, rfl⟩
      · rintro ⟨⟨hpoint, hpoints⟩, rfl⟩
        exact ⟨_, ⟨hpoint, rfl⟩, foldlM_insertPoint_eq_ok_iff.mpr ⟨hpoints, rfl⟩⟩

theorem batch_eq_ok_iff {fault : Bool} {points : List TelemetryPoint} {db db' : Database} :
    db.batch fault points = .ok db' ↔
      fault = false ∧ (∀ p ∈ points, p.NotNull ∧ p.nodeId ∈ db.edgeNodes.keys) ∧
        db' = { db with telemetryPoints := db.telemetryPoints.insertAll points } := by
  unfold batch
  split
  · next h => simp [h]
  · next h => simp [h, foldlM_insertPoint_eq_ok_iff]

end Database

end Bossa.Worker
