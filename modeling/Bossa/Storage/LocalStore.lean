import Mathlib.Data.List.Nodup
import Mathlib.Logic.Function.Basic
import Bossa.Telemetry.Sample

/-!
# The local store

`src/storage/local_store.cpp`. The table `pending_uploads` is the list of its
rows in the order of their ids, together with the largest id ever given out,
which `AUTOINCREMENT` never gives out again. The database files are part of the
state, so closing and reopening a path finds the rows of before.

Every SQLite statement may fail. The outcome is an argument: an error message,
or for a query the number of rows it yields before it fails. The column
`created_at_ms`, which nothing reads, is left out.
-/

namespace Bossa.Storage

open Telemetry

/-- `time_to_unix_ms`. -/
def timeToUnixMs (timestamp : ℤ) : ℤ := timestamp.tdiv 1000000

/-- `unix_ms_to_time`. -/
def unixMsToTime (millis : ℤ) : ℤ := millis * 1000000

def qualityToString : SampleQuality → Bytes
  | .good => Bytes.ascii "good"
  | .uncertain => Bytes.ascii "uncertain"
  | .bad => Bytes.ascii "bad"

def qualityFromString (value : Bytes) : SampleQuality :=
  if value = Bytes.ascii "uncertain" then .uncertain
  else if value = Bytes.ascii "bad" then .bad
  else .good

@[simp] theorem qualityFromString_qualityToString (q : SampleQuality) :
    qualityFromString (qualityToString q) = q := by
  cases q <;> decide

/-- A row of `pending_uploads`. -/
structure PendingUpload where
  id : ℤ
  channelId : Bytes
  value : Double
  unit : Bytes
  timestampMs : ℤ
  quality : Bytes
  priority : ℤ
  origin : ℕ
  deriving DecidableEq, Repr

/-- The row that `enqueue` inserts for a sample. -/
def PendingUpload.ofSample (id : ℤ) (sample : StoredSample) : PendingUpload where
  id := id
  channelId := sample.channelId.cString
  value := sample.value
  unit := sample.unit.cString
  timestampMs := timeToUnixMs sample.timestamp
  quality := qualityToString sample.quality
  priority := sample.priority.toNat
  origin := sample.origin

/-- A row as `peek_batch` returns it. -/
structure PendingRow where
  id : ℤ
  sample : StoredSample
  deriving DecidableEq, Repr

/-- Reading a row: the texts are copied into the fixed arrays with `snprintf`. -/
def PendingUpload.toRow (r : PendingUpload) : PendingRow where
  id := r.id
  sample :=
    { channelId := .ofPrefix 63 (Bytes.cString r.channelId)
      unit := .ofPrefix 31 (Bytes.cString r.unit)
      value := r.value
      timestamp := unixMsToTime r.timestampMs
      quality := qualityFromString r.quality
      priority := .ofInt r.priority
      origin := r.origin }

@[simp] theorem PendingUpload.toRow_id (r : PendingUpload) : r.toRow.id = r.id := rfl

@[simp] theorem PendingUpload.toRow_origin (r : PendingUpload) :
    r.toRow.sample.origin = r.origin := rfl

@[simp] theorem PendingUpload.ofSample_origin (id : ℤ) (sample : StoredSample) :
    (PendingUpload.ofSample id sample).origin = sample.origin := rfl

/-- The table `pending_uploads`. -/
structure PendingUploads where
  rows : List PendingUpload
  sequence : ℤ
  ordered : rows.Pairwise fun r s => r.id < s.id
  bounded : ∀ r ∈ rows, r.id ≤ sequence

namespace PendingUploads

/-- The table after `CREATE TABLE`. -/
def empty : PendingUploads := ⟨[], 0, .nil, by simp⟩

instance : Inhabited PendingUploads := ⟨empty⟩

/-- `INSERT`: the row gets an id above all ids ever used. -/
def insert (t : PendingUploads) (sample : StoredSample) : PendingUploads where
  rows := t.rows ++ [.ofSample (t.sequence + 1) sample]
  sequence := t.sequence + 1
  ordered := by
    refine List.pairwise_append.mpr ⟨t.ordered, List.pairwise_singleton _ _, ?_⟩
    intro r hr s hs
    rw [List.mem_singleton.mp hs]
    exact Int.lt_add_one_of_le (t.bounded r hr)
  bounded := by
    intro r hr
    rcases List.mem_append.mp hr with hr | hr
    · exact (t.bounded r hr).trans (Int.le_add_one le_rfl)
    · rw [List.mem_singleton.mp hr]
      exact le_rfl

/-- `DELETE … WHERE id = ?`. -/
def delete (t : PendingUploads) (id : ℤ) : PendingUploads where
  rows := t.rows.filter fun r => r.id ≠ id
  sequence := t.sequence
  ordered := t.ordered.sublist List.filter_sublist
  bounded := fun r hr => t.bounded r (List.mem_of_mem_filter hr)

@[simp] theorem insert_rows (t : PendingUploads) (sample : StoredSample) :
    (t.insert sample).rows = t.rows ++ [.ofSample (t.sequence + 1) sample] := rfl

@[simp] theorem delete_rows (t : PendingUploads) (id : ℤ) :
    (t.delete id).rows = t.rows.filter fun r => r.id ≠ id := rfl

theorem filter_head_id {r : PendingUpload} {rows : List PendingUpload}
    (h : (r :: rows).Pairwise fun r s => r.id < s.id) :
    ((r :: rows).filter fun s => s.id ≠ r.id) = rows := by
  have hne : ∀ s ∈ rows, (decide (s.id ≠ r.id)) = true := fun s hs => by
    have hlt := (List.pairwise_cons.mp h).1 s hs
    simp [hlt.ne']
  rw [List.filter_cons_of_neg (by simp), List.filter_eq_self.mpr hne]

theorem perm_cons_filter_id {r : PendingUpload} :
    ∀ {rows : List PendingUpload}, (rows.Pairwise fun r s => r.id < s.id) → r ∈ rows →
      rows.Perm (r :: rows.filter fun s => s.id ≠ r.id)
  | [], _, hr => by simp at hr
  | s :: rows, hrows, hr => by
      rcases List.mem_cons.mp hr with rfl | hr
      · rw [filter_head_id hrows]
      · obtain ⟨hlt, hrows⟩ := List.pairwise_cons.mp hrows
        rw [List.filter_cons_of_pos (by simpa using (hlt r hr).ne)]
        exact ((perm_cons_filter_id hrows hr).cons s).trans (.swap _ _ _)

end PendingUploads

/-- How opening a database can fail, with the message of the failure. -/
inductive OpenFault where
  | directory (message : Bytes)
  | sqlite (message : Bytes)
  deriving DecidableEq, Repr

/-- The state of a `LocalStore`: the path of the open database, if any, the
database files and the last error. -/
structure LocalStore where
  db : Option Bytes
  files : Bytes → PendingUploads
  lastError : Bytes

namespace LocalStore

/-- `LocalStore::close`. -/
def close (s : LocalStore) : LocalStore := { s with db := none }

/-- The rows found on opening a path. A database in memory starts empty. -/
def openFile (files : Bytes → PendingUploads) (path : Bytes) : Bytes → PendingUploads :=
  if path = Bytes.ascii ":memory:" then Function.update files path .empty else files

/-- `LocalStore::open`, with the fault that occurs, if any. -/
def «open» (fault : Option OpenFault) (path : Bytes) (s : LocalStore) :
    Bool × LocalStore :=
  let s := s.close
  if path = [] then
    (false, { s with lastError := Bytes.ascii "local store path is empty" })
  else
    match fault with
    | some (.directory message) =>
        (false, { s with
          lastError := Bytes.ascii "cannot create directory: " ++ message })
    | some (.sqlite message) => (false, { s with lastError := message })
    | none => (true, { db := some path, files := openFile s.files path, lastError := [] })

def rows (s : LocalStore) : List PendingUpload :=
  match s.db with
  | none => []
  | some path => (s.files path).rows

def modify (s : LocalStore) (path : Bytes) (f : PendingUploads → PendingUploads) :
    LocalStore :=
  { s with files := Function.update s.files path (f (s.files path)) }

/-- The message of an `INSERT` that violates the constraint on the value: SQLite
binds NaN as NULL. -/
def nullValueMessage : Bytes :=
  Bytes.ascii "NOT NULL constraint failed: pending_uploads.value"

/-- The message of an `INSERT` that fails. -/
def insertFault (fault : Option Bytes) (sample : StoredSample) : Option Bytes :=
  if sample.value = .nan then some (fault.getD nullValueMessage) else fault

/-- `LocalStore::enqueue`, with the message of the statement that fails, if one
does. -/
def enqueue (fault : Option Bytes) (sample : StoredSample) (s : LocalStore) :
    Bool × LocalStore :=
  match s.db with
  | none => (false, { s with lastError := Bytes.ascii "local store is not open" })
  | some path =>
      match insertFault fault sample with
      | some message => (false, { s with lastError := message })
      | none => (true, { s.modify path (·.insert sample) with lastError := [] })

/-- `LocalStore::peek_batch`. A query that fails yields only the given number of
rows. -/
def peekBatch (fault : Option ℕ) (maxCount : ℕ) (s : LocalStore) : List PendingRow :=
  if maxCount = 0 then []
  else
    match fault with
    | none => (s.rows.take maxCount).map PendingUpload.toRow
    | some count => ((s.rows.take maxCount).take count).map PendingUpload.toRow

/-- `LocalStore::acknowledge`. -/
def acknowledge (fault : Option Bytes) (id : ℤ) (s : LocalStore) : Bool × LocalStore :=
  match s.db with
  | none => (false, { s with lastError := Bytes.ascii "local store is not open" })
  | some path =>
      match fault with
      | some message => (false, { s with lastError := message })
      | none => (true, s.modify path (·.delete id))

/-- `LocalStore::pending_count`; a query that fails counts no rows. -/
def pendingCount (fault : Bool) (s : LocalStore) : ℕ :=
  if fault then 0 else s.rows.length

theorem open_db {fault : Option OpenFault} {path : Bytes} {s : LocalStore}
    (h : (s.open fault path).1 = true) : (s.open fault path).2.db = some path := by
  unfold LocalStore.open at h ⊢
  dsimp only at h ⊢
  split at h
  · cases h
  · next hpath =>
      rw [if_neg hpath]
      split at h
      · cases h
      · cases h
      · rfl

theorem rows_modify {s : LocalStore} {path : Bytes} (hdb : s.db = some path)
    (f : PendingUploads → PendingUploads) :
    (s.modify path f).rows = (f (s.files path)).rows := by
  simp [rows, modify, hdb]

theorem rows_ordered (s : LocalStore) : s.rows.Pairwise fun r s => r.id < s.id := by
  unfold rows
  split
  · exact .nil
  · exact (s.files _).ordered

/-- `enqueue` reports success exactly when it has appended the row. -/
theorem enqueue_eq (fault : Option Bytes) (sample : StoredSample) (s : LocalStore) :
    (s.enqueue fault sample).2.db = s.db ∧
      (((s.enqueue fault sample).1 = false ∧
          (s.enqueue fault sample).2.rows = s.rows) ∨
        ((s.enqueue fault sample).1 = true ∧ ∃ id,
          (s.enqueue fault sample).2.rows = s.rows ++ [.ofSample id sample])) := by
  unfold enqueue
  split
  · exact ⟨rfl, .inl ⟨rfl, rfl⟩⟩
  · next path hdb =>
      split
      · exact ⟨rfl, .inl ⟨rfl, rfl⟩⟩
      · refine ⟨rfl, .inr ⟨rfl, (s.files path).sequence + 1, ?_⟩⟩
        have hrows : s.rows = (s.files path).rows := by simp [rows, hdb]
        rw [hrows, ← PendingUploads.insert_rows]
        change (s.modify path fun t => t.insert sample).rows = _
        exact rows_modify hdb _

theorem enqueue_none {s : LocalStore} {sample : StoredSample} (hdb : s.db ≠ none)
    (hvalue : sample.value ≠ .nan) :
    ∃ id, (s.enqueue none sample).2.rows = s.rows ++ [.ofSample id sample] := by
  rcases (s.enqueue_eq none sample).2 with ⟨hfailed, -⟩ | ⟨-, hinserted⟩
  · obtain ⟨path, hpath⟩ := Option.ne_none_iff_exists'.mp hdb
    simp [enqueue, hpath, insertFault, hvalue] at hfailed
  · exact hinserted

/-- `acknowledge` reports success exactly when the database is open and the
statement succeeds, and then the row is gone. -/
theorem acknowledge_eq (fault : Option Bytes) (id : ℤ) (s : LocalStore) :
    (s.acknowledge fault id).2.db = s.db ∧
      (((s.acknowledge fault id).1 = false ∧
          (s.acknowledge fault id).2.rows = s.rows) ∨
        ((s.acknowledge fault id).1 = true ∧
          (s.acknowledge fault id).2.rows = s.rows.filter fun r => r.id ≠ id)) := by
  unfold acknowledge
  split
  · exact ⟨rfl, .inl ⟨rfl, rfl⟩⟩
  · next path hdb =>
      split
      · exact ⟨rfl, .inl ⟨rfl, rfl⟩⟩
      · refine ⟨rfl, .inr ⟨rfl, ?_⟩⟩
        have hrows : s.rows = (s.files path).rows := by simp [rows, hdb]
        rw [hrows, ← PendingUploads.delete_rows]
        exact rows_modify hdb _

theorem peekBatch_eq (fault : Option ℕ) (maxCount : ℕ) (s : LocalStore) :
    ∃ count ≤ maxCount,
      s.peekBatch fault maxCount = (s.rows.take count).map PendingUpload.toRow := by
  unfold peekBatch
  split
  · next h => exact ⟨0, Nat.zero_le _, by simp⟩
  · split
    · exact ⟨maxCount, le_rfl, rfl⟩
    · next count => exact ⟨min count maxCount, min_le_right _ _, by rw [List.take_take]⟩

theorem eq_of_id_eq (s : LocalStore) {r r' : PendingUpload} (hr : r ∈ s.rows)
    (hr' : r' ∈ s.rows) (h : r.id = r'.id) : r = r' := by
  have hids : (s.rows.map PendingUpload.id).Nodup :=
    List.pairwise_map.mpr (s.rows_ordered.imp fun hlt => hlt.ne)
  exact List.inj_on_of_nodup_map hids hr hr' h

theorem toRow_mem_peekBatch (s : LocalStore) {fault : Option ℕ} {maxCount : ℕ}
    {r : PendingUpload} {row : PendingRow} (hr : r ∈ s.rows)
    (hrow : row ∈ s.peekBatch fault maxCount) (hid : row.id = r.id) :
    r.toRow ∈ s.peekBatch fault maxCount := by
  obtain ⟨count, -, hpeek⟩ := s.peekBatch_eq fault maxCount
  rw [hpeek] at hrow ⊢
  obtain ⟨r', hr', rfl⟩ := List.mem_map.mp hrow
  rw [s.eq_of_id_eq hr (List.mem_of_mem_take hr') hid.symm]
  exact List.mem_map_of_mem hr'

end LocalStore

end Bossa.Storage
