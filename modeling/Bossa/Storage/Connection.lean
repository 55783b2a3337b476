import Bossa.Storage.LocalStore
import Bossa.Transition.Resources

/-!
# The handles of the local store

`src/storage/local_store.cpp` once more, with the handles that SQLite gives out: the
connection that `open` keeps, the statement that each query prepares and finalizes, and the
message of `sqlite3_exec`. A statement belongs to its connection. What SQLite returns is an
argument of every call.

A `Connection` is a `LocalStore` together with its connection; the store says that it is open
exactly when there is one.
-/

namespace Bossa.Storage

open Telemetry Resource

/-- A handle that SQLite gives out. -/
inductive Handle where
  | connection (n : ℕ)
  | statement (connection n : ℕ)
  | message (n : ℕ)
  deriving DecidableEq, Repr

/-- A statement belongs to the connection it was prepared on. -/
def Handle.parent : Handle → Option Handle
  | statement n _ => some (connection n)
  | _ => none

/-- What becomes of an attempt to open the database: the directory cannot be created,
`sqlite3_open` fails with or without a connection, one of the two pragmas and the statement
of the schema fails with or without a message, or it is open. -/
inductive OpenOutcome where
  | directoryFails (message : Bytes)
  | sqliteFails (connection : Option ℕ) (message : Bytes)
  | execFails (connection : ℕ) (index : Fin 3) (error : Option (ℕ × Bytes))
  | opens (connection : ℕ)
  deriving DecidableEq, Repr

namespace OpenOutcome

def fault : OpenOutcome → Option OpenFault
  | directoryFails message => some (.directory message)
  | sqliteFails none _ => some (.sqlite (Bytes.ascii "sqlite3_open failed"))
  | sqliteFails (some _) message => some (.sqlite message)
  | execFails _ _ none => some (.sqlite (Bytes.ascii "sqlite exec failed"))
  | execFails _ _ (some (_, message)) => some (.sqlite message)
  | opens _ => none

def kept : OpenOutcome → Option ℕ
  | opens connection => some connection
  | _ => none

/-- A call of `exec` that fails copies the message, if there is one, and frees it. -/
def failedExec (connection : ℕ) : Option (ℕ × Bytes) → List (Event Handle)
  | none => [.use (.connection connection)]
  | some (n, _) =>
      .use (.connection connection) ::
        .acquire (.message n) :: ([.use (.message n)] ++ [.release (.message n)])

/-- What `open` does with its handles behind the test of the path. -/
def events : OpenOutcome → List (Event Handle)
  | directoryFails _ => []
  | sqliteFails none _ => []
  | sqliteFails (some connection) _ =>
      .acquire (.connection connection) ::
        ([.use (.connection connection)] ++ [.release (.connection connection)])
  | execFails connection index error =>
      .acquire (.connection connection) ::
        (List.replicate index (.use (.connection connection)) ++ failedExec connection error ++
          [.release (.connection connection)])
  | opens connection =>
      .acquire (.connection connection) :: List.replicate 3 (.use (.connection connection))

end OpenOutcome

/-- What becomes of a statement: it cannot be prepared, or it is run and may fail. -/
inductive StatementOutcome where
  | prepareFails (message : Bytes)
  | runs (statement : ℕ) (error : Option Bytes)
  deriving DecidableEq, Repr

namespace StatementOutcome

def fault : StatementOutcome → Option Bytes
  | prepareFails message => some message
  | runs _ error => error

/-- A statement is prepared, bound and stepped, and finalized; the message of a failure is
asked of the connection. -/
def events (connection uses : ℕ) (failed reports : Bool) :
    StatementOutcome → List (Event Handle)
  | prepareFails _ =>
      .use (.connection connection) ::
        if reports then [.use (.connection connection)] else []
  | runs n _ =>
      .use (.connection connection) ::
        (.acquire (.statement connection n) ::
          (List.replicate uses (.use (.statement connection n)) ++
            [.release (.statement connection n)]) ++
          if failed && reports then [.use (.connection connection)] else [])

end StatementOutcome

/-- A `LocalStore` with the connection it holds. -/
structure Connection where
  store : LocalStore
  connection : Option ℕ
  isSome_eq : connection.isSome = store.db.isSome

namespace Connection

/-- A store before it is opened. -/
def new (files : Bytes → PendingUploads) : Connection := ⟨⟨none, files, []⟩, none, rfl⟩

/-- `LocalStore::close` on the handles, also in the destructor. -/
def closing (s : Connection) : List (Event Handle) :=
  match s.connection with
  | none => []
  | some connection => [.release (.connection connection)]

/-- `LocalStore::close`. -/
def close (s : Connection) : List (Event Handle) × Connection :=
  (s.closing, ⟨s.store.close, none, rfl⟩)

/-- `LocalStore::open`. -/
def «open» (outcome : OpenOutcome) (path : Bytes) (s : Connection) :
    List (Event Handle) × Connection :=
  (s.closing ++ if path = [] then [] else outcome.events,
    { store := (s.store.open outcome.fault path).2
      connection := if path = [] then none else outcome.kept
      isSome_eq := by
        unfold LocalStore.open
        dsimp only
        by_cases hpath : path = []
        · simp [hpath, LocalStore.close]
        · rcases outcome with _ | ⟨_ | _⟩ | ⟨_, _, _ | _⟩ | _ <;>
            simp [hpath, LocalStore.close, OpenOutcome.fault, OpenOutcome.kept] })

/-- `LocalStore::enqueue`: seven values are bound. -/
def enqueue (outcome : StatementOutcome) (sample : StoredSample) (s : Connection) :
    List (Event Handle) × Connection :=
  (match s.connection with
    | none => []
    | some connection =>
        outcome.events connection 8 (LocalStore.insertFault outcome.fault sample).isSome true,
    { store := (s.store.enqueue outcome.fault sample).2
      connection := s.connection
      isSome_eq := by rw [(s.store.enqueue_eq outcome.fault sample).1, s.isSome_eq] })

/-- `LocalStore::peek_batch`: one value is bound, and seven columns are read of every row. -/
def peekBatch (outcome : StatementOutcome) (fault : Option ℕ) (maxCount : ℕ)
    (s : Connection) : List (Event Handle) × Connection :=
  (match s.connection with
    | none => []
    | some connection =>
        if maxCount = 0 then []
        else outcome.events connection (2 + 8 * (s.store.peekBatch fault maxCount).length) false
          false,
    s)

/-- `LocalStore::acknowledge`. -/
def acknowledge (outcome : StatementOutcome) (id : ℤ) (s : Connection) :
    List (Event Handle) × Connection :=
  (match s.connection with
    | none => []
    | some connection => outcome.events connection 2 outcome.fault.isSome true,
    { store := (s.store.acknowledge outcome.fault id).2
      connection := s.connection
      isSome_eq := by rw [(s.store.acknowledge_eq outcome.fault id).1, s.isSome_eq] })

/-- `LocalStore::pending_count`: the column is read when there is a row. -/
def pendingCount (outcome : StatementOutcome) (s : Connection) :
    List (Event Handle) × Connection :=
  (match s.connection with
    | none => []
    | some connection =>
        outcome.events connection (if outcome.fault.isSome then 1 else 2) false false,
    s)

end Connection

/-- A call of a store, with what SQLite returns. -/
inductive StoreCall where
  | close
  | open (outcome : OpenOutcome) (path : Bytes)
  | enqueue (outcome : StatementOutcome) (sample : StoredSample)
  | peekBatch (outcome : StatementOutcome) (fault : Option ℕ) (maxCount : ℕ)
  | acknowledge (outcome : StatementOutcome) (id : ℤ)
  | pendingCount (outcome : StatementOutcome)

namespace Connection

def call : StoreCall → Connection → List (Event Handle) × Connection
  | .close, s => s.close
  | .open outcome path, s => s.open outcome path
  | .enqueue outcome sample, s => s.enqueue outcome sample
  | .peekBatch outcome fault maxCount, s => s.peekBatch outcome fault maxCount
  | .acknowledge outcome id, s => s.acknowledge outcome id
  | .pendingCount outcome, s => s.pendingCount outcome

/-- The handles that a store holds between its calls. -/
def owned (s : Connection) : Finset Handle :=
  match s.connection with
  | none => ∅
  | some connection => {.connection connection}

end Connection

variable {c n : ℕ}

theorem Handle.parent_ne_message {held : Finset Handle} :
    ∀ h ∈ held, Handle.parent h ≠ some (.message n) := by
  intro h _ hparent
  cases h <;> cases hparent

theorem Handle.parent_ne_statement {held : Finset Handle} :
    ∀ h ∈ held, Handle.parent h ≠ some (.statement c n) := by
  intro h _ hparent
  cases h <;> cases hparent

theorem Handle.parent_ne_connection :
    ∀ h ∈ ({.connection c} : Finset Handle), Handle.parent h ≠ some (.connection c) := by
  intro h hh
  rw [Finset.mem_singleton.mp hh]
  simp [Handle.parent]

theorem OpenOutcome.uses_failedExec (error : Option (ℕ × Bytes)) :
    Uses Handle.parent {.connection c} (failedExec c error) {.connection c} := by
  have huse : Uses Handle.parent {.connection c} [.use (.connection c)] {.connection c} :=
    Uses.use (Finset.mem_singleton_self _)
  cases error with
  | none => exact huse
  | some error =>
      exact huse.append (Uses.bracket (by simp) (by simp [Handle.parent]) Handle.parent_ne_message
        (Uses.use (Finset.mem_insert_self _ _)))

/-- An attempt to open the database leaves the connection that is kept, and nothing else. -/
theorem OpenOutcome.uses_events (outcome : OpenOutcome) :
    Uses Handle.parent ∅ outcome.events
      (match outcome.kept with
        | none => ∅
        | some connection => {.connection connection}) := by
  have hfailed : ∀ {c : ℕ} {trace : List (Event Handle)},
      Uses Handle.parent {.connection c} trace {.connection c} →
      Uses Handle.parent ∅ (.acquire (.connection c) :: (trace ++ [.release (.connection c)])) ∅ :=
    fun hinside => Uses.bracket (by simp) (by simp [Handle.parent]) Handle.parent_ne_connection
      hinside
  have huses : ∀ (c count : ℕ), Uses Handle.parent {.connection c}
      (List.replicate count (.use (.connection c))) {.connection c} := fun c count =>
    Uses.replicate (Finset.mem_singleton_self _) count
  rcases outcome with _ | ⟨_ | c⟩ | ⟨c, index, error⟩ | c
  · exact .nil
  · exact .nil
  · exact hfailed (huses c 1)
  · exact hfailed ((huses c index).append (uses_failedExec error))
  · have hacquired : Uses Handle.parent ∅ [.acquire (.connection c)] {.connection c} :=
      Uses.acquire (by simp) (by simp [Handle.parent])
    exact hacquired.append (huses c 3)

/-- A statement is prepared and finalized, whatever becomes of it. -/
theorem StatementOutcome.uses_events (uses : ℕ) (failed reports : Bool)
    (outcome : StatementOutcome) :
    Uses Handle.parent {.connection c} (outcome.events c uses failed reports)
      {.connection c} := by
  have huse : Uses Handle.parent {.connection c} [.use (.connection c)] {.connection c} :=
    Uses.use (Finset.mem_singleton_self _)
  have hreport : ∀ b : Bool, Uses Handle.parent {.connection c}
      (if b = true then [.use (.connection c)] else []) {.connection c} := by
    intro b
    cases b with
    | false => exact .nil
    | true => exact huse
  cases outcome with
  | prepareFails message => exact huse.append (hreport reports)
  | runs n error =>
      have hrun : Uses Handle.parent {.connection c}
          (.acquire (.statement c n) :: (List.replicate uses (.use (.statement c n)) ++
            [.release (.statement c n)])) {.connection c} :=
        Uses.bracket (by simp) (by simp [Handle.parent]) Handle.parent_ne_statement
          (Uses.replicate (Finset.mem_insert_self _ _) uses)
      exact huse.append (hrun.append (hreport (failed && reports)))

namespace Connection

theorem uses_closing (s : Connection) : Uses Handle.parent s.owned s.closing ∅ := by
  unfold owned closing
  split
  · exact .nil
  · have hrelease := Uses.release (Finset.mem_singleton_self _)
      (@Handle.parent_ne_connection ‹_›)
    rwa [Finset.erase_singleton] at hrelease

/-- Each call leads from the handles of the store to those it holds afterwards. -/
theorem uses_call (call : StoreCall) (s : Connection) :
    Uses Handle.parent s.owned (s.call call).1 (s.call call).2.owned := by
  have hstatement : ∀ {events : ℕ → List (Event Handle)},
      (∀ c, Uses Handle.parent {.connection c} (events c) {.connection c}) →
      Uses Handle.parent s.owned
        (match s.connection with
          | none => []
          | some connection => events connection) s.owned := by
    intro events hevents
    unfold owned
    cases s.connection with
    | none => exact .nil
    | some c => exact hevents c
  cases call with
  | close => exact s.uses_closing
  | «open» outcome path =>
      refine s.uses_closing.append ?_
      by_cases hpath : path = []
      · rw [if_pos hpath, owned]
        simp only [call, Connection.open, hpath, if_true]
        exact .nil
      · rw [if_neg hpath, owned]
        simp only [call, Connection.open, hpath, if_false]
        exact outcome.uses_events
  | enqueue outcome sample => exact hstatement fun _ => outcome.uses_events _ _ _
  | peekBatch outcome fault maxCount =>
      refine hstatement fun c => ?_
      split
      · exact .nil
      · exact outcome.uses_events _ _ _
  | acknowledge outcome id => exact hstatement fun _ => outcome.uses_events _ _ _
  | pendingCount outcome => exact hstatement fun _ => outcome.uses_events _ _ _

/-- Over the life of a store, whatever SQLite returns: every connection is closed once,
every statement is finalized once and before its connection is closed, every message is
freed once, and none of them is used before or after. -/
theorem handles_clean (files : Bytes → PendingUploads) (calls : List StoreCall) :
    Clean Handle.parent
      ((callAll (fun c s => s.call c) calls (new files)).1 ++
        (callAll (fun c s => s.call c) calls (new files)).2.closing) :=
  Uses.life owned (P := fun _ => True)
    (fun c s _ => ⟨trivial, s.uses_call c⟩) (fun s _ => s.uses_closing) trivial rfl calls

end Connection

end Bossa.Storage
