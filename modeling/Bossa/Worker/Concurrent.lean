import Bossa.Transition.Simulation
import Bossa.Worker.Fetch

/-!
# Requests that are handled concurrently

The Worker handles many requests at a time, and a handler waits whenever it runs a
statement on D1, so that the statements of different requests interleave in any order.
`handleTelemetry` runs two of them, the one for the node and the batch of the points. D1
executes a statement and a batch at once.

Every interleaving has the answers and the points of handling the requests one after
another, in the order in which they are answered.
-/

namespace Bossa.Worker

/-- How far the handler of a request has come: it has run no statement, it has saved the
node and waits for the batch, or it has answered. -/
inductive Stage where
  | received
  | prepared (savedAt : Bytes) (points : List TelemetryPoint)
  | answered (answer : Except Abort Response)

/-- The answer of a handler that has come to its end. -/
def Stage.answer? : Stage → Option (Except Abort Response)
  | .answered answer => some answer
  | _ => none

/-- The part of `handleTelemetry` from its checks up to the batch. -/
def prepare (d1 : D1) (fault : Bool) (now : Bytes) (nodeId : Json) (samples : List Json)
    (db : Database) : Stage × Database :=
  match saveNode d1 fault now nodeId db with
  | .error e => (.answered (.error e), db)
  | .ok db =>
      match pointStatements d1 nodeId samples with
      | .error e => (.answered (.error e), db)
      | .ok [] => (.answered (.ok (telemetryResponse 202)), db)
      | .ok points => (.prepared now points, db)

/-- The part of `handleTelemetry` up to the batch. -/
def saveAndPrepare (d1 : D1) (fault : Bool) (now : Bytes) (request : Request)
    (db : Database) : Stage × Database :=
  if !authorized request then (.answered (.ok (telemetryResponse 401)), db)
  else
    match request.body with
    | none => (.answered (.ok (telemetryResponse 400)), db)
    | some payload =>
        match readPayload payload with
        | .error e => (.answered (.error e), db)
        | .ok none => (.answered (.ok (telemetryResponse 400)), db)
        | .ok (some (nodeId, samples)) => prepare d1 fault now nodeId samples db

/-- The part of `handleTelemetry` from the batch on. -/
def writePoints (fault : Bool) (points : List TelemetryPoint) (db : Database) :
    Except Abort Response × Database :=
  match db.batch fault points with
  | .error e => (.error e, db)
  | .ok db => (.ok (telemetryResponse 202), db)

/-- The first part of `fetch`, with at most one statement. -/
def fetchFirst (d1 : D1) (newestPoints : NewestPoints) (faults : FetchFaults) (now : Bytes)
    (request : FetchRequest) (db : Database) : Stage × Database :=
  if request.isTelemetry then saveAndPrepare d1 faults.node now request.toRequest db
  else (.answered (respond newestPoints faults.query request db), db)

/-- A request that was handled: which one, when its node was saved, and the outcomes of its
statements. -/
structure Serving (ι : Type*) where
  index : ι
  now : Bytes
  faults : FetchFaults

section Systems

variable {ι : Type*} [DecidableEq ι]

/-- The database and how far the handlers of the requests have come. -/
structure Server (ι : Type*) where
  database : Database
  stage : ι → Stage

def Server.start (db : Database) : Server ι := ⟨db, fun _ => .received⟩

def Server.turn (i : ι) (stage : Stage) (db : Database) (s : Server ι) : Server ι :=
  ⟨db, Function.update s.stage i stage⟩

@[simp] theorem Server.turn_database (i : ι) (stage : Stage) (db : Database) (s : Server ι) :
    (s.turn i stage db).database = db := rfl

@[simp] theorem Server.turn_stage_self (i : ι) (stage : Stage) (db : Database)
    (s : Server ι) : (s.turn i stage db).stage i = stage :=
  Function.update_self ..

theorem Server.turn_stage_of_ne {i j : ι} (h : j ≠ i) (stage : Stage) (db : Database)
    (s : Server ι) : (s.turn i stage db).stage j = s.stage j :=
  Function.update_of_ne h ..

/-- A handler takes its next step. The label is the request when it is answered. -/
inductive Server.Step (d1 : D1) (newestPoints : NewestPoints) (requests : ι → FetchRequest)
    (s : Server ι) : Option (Serving ι) → Server ι → Prop
  | answer {i : ι} {now : Bytes} {faults : FetchFaults} {answer : Except Abort Response}
      {db : Database} (hstage : s.stage i = .received)
      (hfirst : fetchFirst d1 newestPoints faults now (requests i) s.database =
        (.answered answer, db)) :
      Step d1 newestPoints requests s (some ⟨i, now, faults⟩)
        (s.turn i (.answered answer) db)
  | prepare {i : ι} {now savedAt : Bytes} {faults : FetchFaults}
      {points : List TelemetryPoint} {db : Database} (hstage : s.stage i = .received)
      (hfirst : fetchFirst d1 newestPoints faults now (requests i) s.database =
        (.prepared savedAt points, db)) :
      Step d1 newestPoints requests s none
        (s.turn i (.prepared savedAt points) db)
  | write {i : ι} {savedAt : Bytes} {fault : Bool} {points : List TelemetryPoint}
      {answer : Except Abort Response} {db : Database}
      (hstage : s.stage i = .prepared savedAt points)
      (hwrite : writePoints fault points s.database = (answer, db)) :
      Step d1 newestPoints requests s (some ⟨i, savedAt, { batch := fault }⟩)
        (s.turn i (.answered answer) db)

/-- The database and the answers when a request is handled at once. -/
structure Serial (ι : Type*) where
  database : Database
  answers : ι → Option (Except Abort Response)

def Serial.start (db : Database) : Serial ι := ⟨db, fun _ => none⟩

/-- A request is handled. -/
def Serial.Step (d1 : D1) (newestPoints : NewestPoints) (requests : ι → FetchRequest)
    (s : Serial ι) (serving : Serving ι) (t : Serial ι) : Prop :=
  s.answers serving.index = none ∧
    let handled := fetch d1 newestPoints serving.faults serving.now (requests serving.index)
      s.database
    t = ⟨handled.2, Function.update s.answers serving.index (some handled.1)⟩

end Systems

section Stages

variable {d1 : D1} {newestPoints : NewestPoints} {faults : FetchFaults} {now : Bytes}
  {request : Request} {db db' : Database}

def saved (node : Option SqlValue) (now : Bytes) (db : Database) : Database :=
  node.elim db fun k => db.upsertNode k (.text now)

/-- What the part of a handler up to the batch comes to: an answer that does not depend on
the batch, with a statement for a node or without one. -/
def AnswersAtOnce (before : Database → Stage × Database)
    (whole : Bool → Database → Except Abort ℕ × Database) (now : Bytes)
    (node : Option SqlValue) : Prop :=
  ∃ answer, ∀ db, before db = (.answered (answer.map telemetryResponse), saved node now db) ∧
    ∀ batch, whole batch db = (answer, saved node now db)

/-- What the part of a handler up to the batch comes to otherwise: a node that is saved and
points of this node, which the batch will insert. -/
def AwaitsBatch (d1 : D1) (before : Database → Stage × Database)
    (whole : Bool → Database → Except Abort ℕ × Database) (now : Bytes)
    (node : SqlValue) : Prop :=
  ∃ points : List TelemetryPoint, (∀ p ∈ points, p.nodeId = node ∧ p.Typed d1) ∧
    ∀ db, before db = (.prepared now points, saved (some node) now db) ∧
      ∀ batch, ((whole batch db).1.map telemetryResponse, (whole batch db).2) =
        writePoints batch points (saved (some node) now db)

theorem typed_samplePoint {nodeId : Option Json} {sample : Json} {p : TelemetryPoint}
    (h : samplePoint d1 nodeId sample = .ok p) : p.Typed d1 := by
  simp only [samplePoint, bindPoint, Abort.bind_eq_ok_iff, Abort.pure_eq_ok_iff] at h
  obtain ⟨n, -, c, -, t, -, value, -, u, -, q, -, rfl⟩ := h
  exact ⟨by simp [d1.toText_ne_number], fun s hs => d1.textNumber_of_toReal hs⟩

theorem prepare_cases (d1 : D1) (fault : Bool) (now : Bytes) (nodeId : Json)
    (samples : List Json) :
    (∃ node, (∀ k, node = some k → ∃ v, d1.bind (some nodeId) = .ok v ∧ k = d1.toText v) ∧
        AnswersAtOnce (prepare d1 fault now nodeId samples)
          (fun batch => ingest d1 ⟨fault, batch⟩ now nodeId samples) now node) ∨
      fault = false ∧ ∃ v, d1.bind (some nodeId) = .ok v ∧
        AwaitsBatch d1 (prepare d1 fault now nodeId samples)
          (fun batch => ingest d1 ⟨fault, batch⟩ now nodeId samples) now (d1.toText v) := by
  unfold prepare ingest saveNode
  cases hbind : d1.bind (some nodeId) with
  | error e => exact .inl ⟨none, by simp, .error e, fun _ => ⟨rfl, fun _ => rfl⟩⟩
  | ok v =>
      cases fault with
      | true => exact .inl ⟨none, by simp, .error .exception, fun _ => ⟨rfl, fun _ => rfl⟩⟩
      | false =>
          cases hpoints : pointStatements d1 nodeId samples with
          | error e =>
              exact .inl ⟨some (d1.toText v), by simp, .error e, fun _ => ⟨rfl, fun _ => rfl⟩⟩
          | ok points =>
              cases points with
              | nil =>
                  exact .inl ⟨some (d1.toText v), by simp, .ok 202,
                    fun _ => ⟨rfl, fun _ => rfl⟩⟩
              | cons p points =>
                  refine .inr ⟨rfl, v, rfl, p :: points, ?_, fun db => ⟨rfl, fun batch => ?_⟩⟩
                  · intro q hq
                    rw [(pointStatements_eq_ok_iff.mp hpoints).2] at hq
                    obtain ⟨s, -, -, hpoint⟩ := mem_validPoints.mp hq
                    exact ⟨samplePoint_nodeId hbind hpoint, typed_samplePoint hpoint⟩
                  · simp only [writePoints, saved, Option.elim, bind, Except.bind, pure,
                      Except.pure, Bool.false_eq_true, if_false]
                    cases Database.batch batch (p :: points)
                      (db.upsertNode (d1.toText v) (.text now)) with
                    | error e => rfl
                    | ok db => rfl

/-- Up to the batch a handler answers or gets ready for the batch, and which of the two
happens does not depend on the database. -/
theorem saveAndPrepare_cases (d1 : D1) (fault : Bool) (now : Bytes) (request : Request) :
    (∃ node, (∀ k, node = some k → request.node? d1 = some k) ∧
        AnswersAtOnce (saveAndPrepare d1 fault now request)
          (fun batch => handleTelemetry d1 ⟨fault, batch⟩ now request) now node) ∨
      fault = false ∧ ∃ node, request.node? d1 = some node ∧
        AwaitsBatch d1 (saveAndPrepare d1 fault now request)
          (fun batch => handleTelemetry d1 ⟨fault, batch⟩ now request) now node := by
  unfold saveAndPrepare handleTelemetry
  cases hauth : authorized request with
  | false => exact .inl ⟨none, by simp, .ok 401, fun _ => ⟨rfl, fun _ => rfl⟩⟩
  | true =>
      cases hbody : request.body with
      | none => exact .inl ⟨none, by simp, .ok 400, fun _ => ⟨rfl, fun _ => rfl⟩⟩
      | some payload =>
          simp only [Bool.not_true, Bool.false_eq_true, if_false]
          cases hread : readPayload payload with
          | error e => exact .inl ⟨none, by simp, .error e, fun _ => ⟨rfl, fun _ => rfl⟩⟩
          | ok read =>
              cases read with
              | none => exact .inl ⟨none, by simp, .ok 400, fun _ => ⟨rfl, fun _ => rfl⟩⟩
              | some read =>
                  obtain ⟨nodeId, samples⟩ := read
                  have hbatch : request.batch? = some (nodeId, samples) :=
                    Request.batch?_eq_some_iff.mpr ⟨hauth, payload, hbody, hread⟩
                  have hnode : ∀ v, d1.bind (some nodeId) = .ok v →
                      request.node? d1 = some (d1.toText v) := fun v hv => by
                    simp [Request.node?, hbatch, hv, Except.toOption]
                  rcases prepare_cases d1 fault now nodeId samples with
                    ⟨node, hsaved, hanswers⟩ | ⟨hfault, v, hv, hawaits⟩
                  · refine .inl ⟨node, fun k hk => ?_, hanswers⟩
                    obtain ⟨v, hv, rfl⟩ := hsaved k hk
                    exact hnode v hv
                  · exact .inr ⟨hfault, d1.toText v, hnode v hv, hawaits⟩

theorem exception_of_batch {fault : Bool} {points : List TelemetryPoint} {e : Abort}
    (h : db.batch fault points = .error e) : e = .exception := by
  have hfold : ∀ (points : List TelemetryPoint) (db : Database),
      points.foldlM Database.insertPoint db = .error e → e = .exception := by
    intro points
    induction points with
    | nil =>
        intro db hfold
        cases hfold
    | cons p points ih =>
        intro db hfold
        rw [List.foldlM_cons] at hfold
        rcases Abort.bind_eq_error_iff.mp hfold with hinsert | ⟨db', -, hrest⟩
        · unfold Database.insertPoint at hinsert
          split at hinsert
          · cases hinsert
          · exact (Except.error.inj hinsert).symm
        · exact ih db' hrest
  unfold Database.batch at h
  split at h
  · exact (Except.error.inj h).symm
  · exact hfold points db h

/-- The batch of a node that is known inserts its points unless one of them violates a
constraint, whatever else is in the database. -/
theorem writePoints_eq {fault : Bool} {points : List TelemetryPoint} {node : SqlValue}
    (hpoints : ∀ p ∈ points, p.nodeId = node) (hknown : node ∈ db.edgeNodes.keys) :
    writePoints fault points db =
      if fault = false ∧ ∀ p ∈ points, p.NotNull then
        (.ok (telemetryResponse 202),
          { db with telemetryPoints := db.telemetryPoints.insertAll points })
      else (.error .exception, db) := by
  have hvalid : ∀ p ∈ points, p.NotNull ∧ p.nodeId ∈ db.edgeNodes.keys ↔ p.NotNull :=
    fun p hp => and_iff_left (hpoints p hp ▸ hknown)
  unfold writePoints
  cases hbatch : db.batch fault points with
  | error e =>
      rw [exception_of_batch hbatch, if_neg]
      rintro ⟨hfault, hnotNull⟩
      have hok := Database.batch_eq_ok_iff.mpr
        ⟨hfault, fun p hp => (hvalid p hp).mpr (hnotNull p hp), rfl⟩
      rw [hbatch] at hok
      cases hok
  | ok db' =>
      obtain ⟨hfault, hall, rfl⟩ := Database.batch_eq_ok_iff.mp hbatch
      rw [if_pos ⟨hfault, fun p hp => (hvalid p hp).mp (hall p hp)⟩]

theorem map_telemetryResponse_inj {a b : Except Abort ℕ}
    (h : a.map telemetryResponse = b.map telemetryResponse) : a = b := by
  cases a with
  | error e =>
      cases b with
      | error e' => simpa [Except.map] using h
      | ok n => cases h
  | ok n =>
      cases b with
      | error e => cases h
      | ok m =>
          have hstatus := congrArg Response.status (Except.ok.inj h)
          exact congrArg Except.ok hstatus

/-- The answer to a batch does not depend on what is in the database. -/
theorem handleTelemetry_answer_congr (d1 : D1) (faults : StatementFaults) (now : Bytes)
    (request : Request) (db db' : Database) :
    (handleTelemetry d1 faults now request db').1 =
      (handleTelemetry d1 faults now request db).1 := by
  rcases saveAndPrepare_cases d1 faults.node now request with
    ⟨node, -, answer, hat⟩ | ⟨-, node, -, points, hpoints, hat⟩
  · exact (congrArg Prod.fst ((hat db').2 faults.batch)).trans
      (congrArg Prod.fst ((hat db).2 faults.batch)).symm
  · have hknown : ∀ db, node ∈ (saved (some node) now db).edgeNodes.keys := fun db =>
      Database.mem_upsertNode _ _ db
    have hwritten : ∀ db, (handleTelemetry d1 faults now request db).1.map telemetryResponse =
        (writePoints faults.batch points (saved (some node) now db)).1 := fun db =>
      congrArg Prod.fst ((hat db).2 faults.batch)
    apply map_telemetryResponse_inj
    rw [hwritten, hwritten, writePoints_eq (fun p hp => (hpoints p hp).1) (hknown db'),
      writePoints_eq (fun p hp => (hpoints p hp).1) (hknown db)]
    split <;> rfl

@[simp] theorem saved_telemetryPoints (node : Option SqlValue) (now : Bytes) (db : Database) :
    (saved node now db).telemetryPoints = db.telemetryPoints := by
  cases node <;> rfl

theorem mem_keys_saved {node : Option SqlValue} {k : SqlValue} :
    k ∈ (saved node now db).edgeNodes.keys ↔ node = some k ∨ k ∈ db.edgeNodes.keys := by
  cases node with
  | none => simp [saved]
  | some k' =>
      rw [Option.some.injEq, eq_comm]
      exact Database.mem_keys_upsertNode

end Stages

section Simulation

variable {ι : Type*} {d1 : D1} {newestPoints : NewestPoints} {requests : ι → FetchRequest}
  {s s' : Server ι} {t : Serial ι}

/-- A handler that waits for its batch has saved its node, and the batch is all that is
left of its request. -/
structure Prepared (d1 : D1) (newestPoints : NewestPoints) (request : FetchRequest)
    (savedAt : Bytes) (points : List TelemetryPoint) (db : Database) (node : SqlValue) :
    Prop where
  node_eq : request.node? d1 = some node
  known : node ∈ db.edgeNodes.keys
  nodeId_eq : ∀ p ∈ points, p.nodeId = node
  typed : ∀ p ∈ points, p.Typed d1
  fetch_eq : ∀ batch db, fetch d1 newestPoints { batch := batch } savedAt request db =
    writePoints batch points (saved (some node) savedAt db)

/-- The serial database belongs to the concurrent one: the points are the same, and so are
the nodes except for those of handlers that wait for their batch. -/
structure Matches (d1 : D1) (newestPoints : NewestPoints) (requests : ι → FetchRequest)
    (s : Server ι) (t : Serial ι) : Prop where
  points : t.database.telemetryPoints = s.database.telemetryPoints
  unanswered : ∀ i, t.answers i = none ↔ (s.stage i).answer? = none
  answers : ∀ i, (requests i).isNodes = false → t.answers i = (s.stage i).answer?
  known : t.database.edgeNodes.keys ⊆ s.database.edgeNodes.keys
  saved : ∀ k ∈ s.database.edgeNodes.keys, k ∈ t.database.edgeNodes.keys ∨
    ∃ i savedAt points, s.stage i = .prepared savedAt points ∧
      (requests i).node? d1 = some k
  prepared : ∀ i savedAt points, s.stage i = .prepared savedAt points → ∃ node,
    Prepared d1 newestPoints (requests i) savedAt points s.database node

theorem Matches.start (db : Database) :
    Matches d1 newestPoints requests (.start db) (.start db) where
  points := rfl
  unanswered := fun _ => ⟨fun _ => rfl, fun _ => rfl⟩
  answers := fun _ _ => rfl
  known := List.Subset.refl _
  saved := fun _ hk => .inl hk
  prepared := fun _ _ _ h => by cases h

variable [DecidableEq ι]

theorem Matches.answer (h : Matches d1 newestPoints requests s t) {i : ι}
    {answer answer' : Except Abort Response} {db db' : Database}
    (hpoints : db'.telemetryPoints = db.telemetryPoints)
    (hanswer : (requests i).isNodes = false → answer' = answer)
    (hknown : db'.edgeNodes.keys ⊆ db.edgeNodes.keys)
    (hkept : s.database.edgeNodes.keys ⊆ db.edgeNodes.keys)
    (hsaved : ∀ k ∈ db.edgeNodes.keys, k ∈ db'.edgeNodes.keys ∨
      ∃ j savedAt points, j ≠ i ∧ s.stage j = .prepared savedAt points ∧
        (requests j).node? d1 = some k) :
    Matches d1 newestPoints requests (s.turn i (.answered answer) db)
      ⟨db', Function.update t.answers i (some answer')⟩ where
  points := hpoints
  unanswered := fun j => by
    by_cases hj : j = i
    · subst hj
      simp [Stage.answer?]
    · simpa [Function.update_of_ne hj, Server.turn_stage_of_ne hj] using h.unanswered j
  answers := fun j hj' => by
    by_cases hj : j = i
    · subst hj
      simp [Stage.answer?, hanswer hj']
    · simpa [Function.update_of_ne hj, Server.turn_stage_of_ne hj] using h.answers j hj'
  known := hknown
  saved := fun k hk => by
    rcases hsaved k hk with hmem | ⟨j, savedAt, points, hj, hstage, hnode⟩
    · exact .inl hmem
    · exact .inr ⟨j, savedAt, points, by rwa [Server.turn_stage_of_ne hj], hnode⟩
  prepared := fun j savedAt points hstage => by
    by_cases hj : j = i
    · subst hj
      simp at hstage
    · rw [Server.turn_stage_of_ne hj] at hstage
      obtain ⟨node, hprepared⟩ := h.prepared j savedAt points hstage
      exact ⟨node, { hprepared with known := hkept hprepared.known }⟩

/-- Handling a request at once is what its handler does up to the batch, if it answers
there. -/
theorem fetchFirst_answered {faults : FetchFaults} {now : Bytes} {request : FetchRequest}
    {db saved' : Database} {answer : Except Abort Response}
    (hfirst : fetchFirst d1 newestPoints faults now request db = (.answered answer, saved')) :
    ∃ node, saved' = saved node now db ∧ ∀ db', db'.telemetryPoints = db.telemetryPoints →
      ∃ answer', (request.isNodes = false → answer' = answer) ∧
        fetch d1 newestPoints faults now request db' = (answer', saved node now db') := by
  unfold fetchFirst at hfirst
  unfold fetch
  split at hfirst
  · next htelemetry =>
      rcases saveAndPrepare_cases d1 faults.node now request.toRequest with
        ⟨node, -, answer₀, hat⟩ | ⟨-, node, -, points, -, hat⟩
      · rw [(hat db).1] at hfirst
        cases hfirst
        refine ⟨node, rfl, fun db' _ => ⟨_, fun _ => rfl, ?_⟩⟩
        rw [if_pos htelemetry]
        exact congrArg (fun r => (r.1.map telemetryResponse, r.2)) ((hat db').2 faults.batch)
      · rw [(hat db).1] at hfirst
        cases hfirst
  · next htelemetry =>
      cases hfirst
      refine ⟨none, rfl, fun db' hdb' => ⟨_, fun hnodes => respond_congr hnodes hdb', ?_⟩⟩
      rw [if_neg htelemetry]
      rfl

/-- A handler that gets ready for its batch has saved its node and nothing else. -/
theorem fetchFirst_prepared {faults : FetchFaults} {now savedAt : Bytes} {request : FetchRequest}
    {db saved' : Database} {points : List TelemetryPoint}
    (hfirst : fetchFirst d1 newestPoints faults now request db =
      (.prepared savedAt points, saved')) :
    ∃ node, saved' = saved (some node) now db ∧
      Prepared d1 newestPoints request savedAt points saved' node := by
  unfold fetchFirst at hfirst
  split at hfirst
  · next htelemetry =>
      rcases saveAndPrepare_cases d1 faults.node now request.toRequest with
        ⟨node, -, answer₀, hat⟩ | ⟨hfault, node, hnode, points', hpoints, hat⟩
      · rw [(hat db).1] at hfirst
        cases hfirst
      · rw [(hat db).1] at hfirst
        cases hfirst
        refine ⟨node, rfl, hnode, mem_keys_saved.mpr (.inl rfl), fun p hp => (hpoints p hp).1,
          fun p hp => (hpoints p hp).2, fun batch db' => ?_⟩
        rw [← (hat db').2 batch, hfault, fetch, if_pos htelemetry]
  · cases hfirst

/-- Handling the requests one after another simulates handling them concurrently. -/
theorem matches_simulates :
    Transition.Simulates (Server.Step d1 newestPoints requests)
      (Serial.Step d1 newestPoints requests) Option.toList
      (Matches d1 newestPoints requests) := by
  intro s label s' t h hstep
  cases hstep with
  | @answer i now faults answer db hstage hfirst =>
      obtain ⟨node, rfl, hat⟩ := fetchFirst_answered hfirst
      obtain ⟨answer', hanswer, hfetch⟩ := hat t.database h.points
      have hunanswered : t.answers i = none := (h.unanswered i).mpr (by rw [hstage]; rfl)
      refine ⟨_, Transition.Run.nil.snoc ⟨hunanswered, rfl⟩, ?_⟩
      simp only [hfetch]
      refine h.answer (by simp [h.points]) hanswer ?_ ?_ ?_
      · intro k hk
        exact mem_keys_saved.mpr ((mem_keys_saved.mp hk).imp_right fun hk => h.known hk)
      · exact fun k hk => mem_keys_saved.mpr (.inr hk)
      · intro k hk
        rcases mem_keys_saved.mp hk with hnode | hk
        · exact .inl (mem_keys_saved.mpr (.inl hnode))
        · rcases h.saved k hk with hk | ⟨j, savedAt, points, hj, hnode⟩
          · exact .inl (mem_keys_saved.mpr (.inr hk))
          · refine .inr ⟨j, savedAt, points, ?_, hj, hnode⟩
            rintro rfl
            rw [hstage] at hj
            cases hj
  | @prepare i now savedAt faults points db hstage hfirst =>
      obtain ⟨node, rfl, hprepared⟩ := fetchFirst_prepared hfirst
      refine ⟨t, .nil, ?_⟩
      exact
        { points := by simp [h.points]
          unanswered := fun j => by
            by_cases hj : j = i
            · subst hj
              simpa [Stage.answer?, hstage] using h.unanswered j
            · simpa [Server.turn_stage_of_ne hj] using h.unanswered j
          answers := fun j hj' => by
            by_cases hj : j = i
            · subst hj
              simpa [Stage.answer?, hstage] using h.answers j hj'
            · simpa [Server.turn_stage_of_ne hj] using h.answers j hj'
          known := fun k hk => mem_keys_saved.mpr (.inr (h.known hk))
          saved := fun k hk => by
            rcases mem_keys_saved.mp hk with hnode | hk
            · cases hnode
              exact .inr ⟨i, savedAt, points, by simp, hprepared.node_eq⟩
            · rcases h.saved k hk with hk | ⟨j, savedAt', points', hj, hnode⟩
              · exact .inl hk
              · have hne : j ≠ i := by
                  rintro rfl
                  rw [hstage] at hj
                  cases hj
                exact .inr ⟨j, savedAt', points', by rwa [Server.turn_stage_of_ne hne], hnode⟩
          prepared := fun j savedAt' points' hj => by
            by_cases hji : j = i
            · subst hji
              simp only [Server.turn_stage_self, Stage.prepared.injEq] at hj
              obtain ⟨rfl, rfl⟩ := hj
              exact ⟨node, hprepared⟩
            · rw [Server.turn_stage_of_ne hji] at hj
              obtain ⟨node', hprepared'⟩ := h.prepared j savedAt' points' hj
              exact ⟨node', { hprepared' with
                known := mem_keys_saved.mpr (.inr hprepared'.known) }⟩ }
  | @write i savedAt fault points answer db hstage hwrite =>
      obtain ⟨node, hprepared⟩ := h.prepared i savedAt points hstage
      have hunanswered : t.answers i = none := (h.unanswered i).mpr (by rw [hstage]; rfl)
      have hknown : node ∈ (saved (some node) savedAt t.database).edgeNodes.keys :=
        mem_keys_saved.mpr (.inl rfl)
      have hfetch := hprepared.fetch_eq fault t.database
      rw [writePoints_eq hprepared.nodeId_eq hknown] at hfetch
      rw [writePoints_eq hprepared.nodeId_eq hprepared.known] at hwrite
      have hsaved : ∀ k ∈ s.database.edgeNodes.keys,
          k ∈ (saved (some node) savedAt t.database).edgeNodes.keys ∨
            ∃ j savedAt points, j ≠ i ∧ s.stage j = .prepared savedAt points ∧
              (requests j).node? d1 = some k := by
        intro k hk
        rcases h.saved k hk with hk | ⟨j, savedAt', points', hj, hnode⟩
        · exact .inl (mem_keys_saved.mpr (.inr hk))
        · by_cases hji : j = i
          · subst hji
            rw [hprepared.node_eq] at hnode
            exact .inl (mem_keys_saved.mpr (.inl hnode))
          · exact .inr ⟨j, savedAt', points', hji, hj, hnode⟩
      have hsub : (saved (some node) savedAt t.database).edgeNodes.keys ⊆
          s.database.edgeNodes.keys := by
        intro k hk
        rcases mem_keys_saved.mp hk with hnode | hk
        · cases hnode
          exact hprepared.known
        · exact h.known hk
      refine ⟨_, Transition.Run.nil.snoc ⟨hunanswered, rfl⟩, ?_⟩
      simp only [hfetch]
      split at hwrite
      · next hok =>
          cases hwrite
          rw [if_pos hok]
          exact h.answer (by simp [h.points]) (fun _ => rfl) hsub (List.Subset.refl _) hsaved
      · next hfailed =>
          cases hwrite
          rw [if_neg hfailed]
          exact h.answer (by simp [h.points]) (fun _ => rfl) hsub (List.Subset.refl _) hsaved

theorem matches_of_run {db : Database} {labels : List (Option (Serving ι))}
    (hrun : Transition.Run (Server.Step d1 newestPoints requests) (.start db) labels s) :
    ∃ t, Transition.Run (Serial.Step d1 newestPoints requests) (.start db)
      labels.reduceOption t ∧ Matches d1 newestPoints requests s t := by
  obtain ⟨t, hserial, hmatches⟩ := matches_simulates.run hrun (Matches.start db)
  rw [← List.filterMap_eq_flatMap_toList (fun label => label)] at hserial
  exact ⟨t, hserial, hmatches⟩

end Simulation

section Interleaving

def readingRequest (value : ℚ) : FetchRequest where
  authorization := some (Bytes.ascii "Bearer key")
  body := some (.obj
    [(Bytes.ascii "node_id", .str (Bytes.ascii "edge-1")),
      (Bytes.ascii "samples", .arr [.obj
        [(Bytes.ascii "channel_id", .str (Bytes.ascii "t")),
          (Bytes.ascii "timestamp", .str (Bytes.ascii "2026-07-10T13:44:59Z")),
          (Bytes.ascii "value", .num (.finite value)),
          (Bytes.ascii "unit", .str (Bytes.ascii "C"))]])])
  method := Bytes.ascii "POST"
  pathname := Bytes.ascii "/api/v1/telemetry"

def dataRequest : FetchRequest where
  authorization := none
  body := none
  method := Bytes.ascii "GET"
  pathname := Bytes.ascii "/api/v1/data"

/-- Two readings of the same channel in the same second, and requests for the points. -/
def twoReadings : ℕ → FetchRequest
  | 0 => readingRequest 20
  | 1 => readingRequest 21
  | _ => dataRequest

theorem exists_interleaving :
    ∃ s : Server ℕ, Transition.Run (Server.Step .plain .stable twoReadings) (.start .empty)
      [none, none, some ⟨1, [], {}⟩, some ⟨0, [], {}⟩] s :=
  ⟨_, (((Transition.Run.nil.snoc
    (@Server.Step.prepare _ _ _ _ _ _ 0 [] _ {} _ _ rfl rfl)).snoc
    (@Server.Step.prepare _ _ _ _ _ _ 1 [] _ {} _ _ rfl rfl)).snoc
    (@Server.Step.write _ _ _ _ _ _ 1 _ false _ _ _ rfl rfl)).snoc
    (@Server.Step.write _ _ _ _ _ _ 0 _ false _ _ _ rfl rfl)⟩

end Interleaving

section Interleavings

variable {ι : Type*} [DecidableEq ι] {d1 : D1} {newestPoints : NewestPoints}
  {requests : ι → FetchRequest} {s s' : Server ι} {t : Serial ι}

/-- What the constraints and the types of the schema promise, and that no node is without
the hash of a key. -/
structure Database.Sound (d1 : D1) (db : Database) : Prop where
  known : ∀ p ∈ db.telemetryPoints.rows, p.nodeId ∈ db.edgeNodes.keys
  notNull : ∀ p ∈ db.telemetryPoints.rows, p.NotNull
  typed : ∀ p ∈ db.telemetryPoints.rows, p.Typed d1
  hashed : ∀ n ∈ db.edgeNodes.rows, n.apiKeyHash ≠ .null

/-- The later database has the rows of the earlier one in front of its own, and its
nodes. -/
structure Database.Extends (db db' : Database) : Prop where
  rows : db.telemetryPoints.rows <+: db'.telemetryPoints.rows
  nodes : db.edgeNodes.keys ⊆ db'.edgeNodes.keys

theorem Database.Extends.refl (db : Database) : db.Extends db :=
  ⟨List.prefix_rfl, List.Subset.refl _⟩

theorem Database.Extends.trans {db db' db'' : Database} (h : db.Extends db')
    (h' : db'.Extends db'') : db.Extends db'' :=
  ⟨h.rows.trans h'.rows, List.Subset.trans h.nodes h'.nodes⟩

theorem Database.Sound.saved {db : Database} (h : db.Sound d1) (node : Option SqlValue)
    (now : Bytes) : (saved node now db).Sound d1 where
  known := fun p hp => by
    rw [saved_telemetryPoints] at hp
    exact mem_keys_saved.mpr (.inr (h.known p hp))
  notNull := fun p hp => h.notNull p (saved_telemetryPoints node now db ▸ hp)
  typed := fun p hp => h.typed p (saved_telemetryPoints node now db ▸ hp)
  hashed := fun n hn => by
    cases node with
    | none => exact h.hashed n hn
    | some k =>
        rcases Database.mem_rows_upsertNode hn with rfl | ⟨n', hn', rfl | rfl⟩
        · exact SqlValue.noConfusion
        · exact h.hashed n' hn'
        · exact h.hashed n hn'

theorem Database.Sound.insertAll {db : Database} (h : db.Sound d1)
    {points : List TelemetryPoint}
    (hpoints : ∀ p ∈ points, p.nodeId ∈ db.edgeNodes.keys ∧ p.NotNull ∧ p.Typed d1) :
    Database.Sound d1
      { db with telemetryPoints := db.telemetryPoints.insertAll points } where
  known := fun p hp => (Keyed.mem_insertAll hp).elim (h.known p) fun hp => (hpoints p hp).1
  notNull := fun p hp =>
    (Keyed.mem_insertAll hp).elim (h.notNull p) fun hp => (hpoints p hp).2.1
  typed := fun p hp => (Keyed.mem_insertAll hp).elim (h.typed p) fun hp => (hpoints p hp).2.2
  hashed := h.hashed

/-- A step of a handler saves a node, or it inserts points of a node that was saved. -/
theorem Server.Step.sound (hmatches : Matches d1 newestPoints requests s t)
    {label : Option (Serving ι)} (hstep : Server.Step d1 newestPoints requests s label s') :
    (s.database.Sound d1 → s'.database.Sound d1) ∧ s.database.Extends s'.database := by
  have hsaved : ∀ node now, s.database.Extends (saved node now s.database) := fun node now =>
    ⟨by simp, fun k hk => mem_keys_saved.mpr (.inr hk)⟩
  cases hstep with
  | answer hstage hfirst =>
      obtain ⟨node, rfl, -⟩ := fetchFirst_answered hfirst
      exact ⟨fun h => h.saved node _, hsaved node _⟩
  | prepare hstage hfirst =>
      obtain ⟨node, rfl, -⟩ := fetchFirst_prepared hfirst
      exact ⟨fun h => h.saved (some node) _, hsaved (some node) _⟩
  | @write i savedAt fault points answer db hstage hwrite =>
      obtain ⟨node, hprepared⟩ := hmatches.prepared i savedAt points hstage
      rw [writePoints_eq hprepared.nodeId_eq hprepared.known] at hwrite
      split at hwrite
      · next hok =>
          cases hwrite
          refine ⟨fun h => h.insertAll fun p hp => ?_, ⟨Keyed.rows_prefix_insertAll _ _,
            List.Subset.refl _⟩⟩
          rw [hprepared.nodeId_eq p hp]
          exact ⟨hprepared.known, hok.2 p hp, hprepared.typed p hp⟩
      · cases hwrite
        exact ⟨id, .refl _⟩

/-- A reachable state whose database extends the given one and keeps the promises of the
schema. -/
structure Server.Regular (d1 : D1) (newestPoints : NewestPoints)
    (requests : ι → FetchRequest) (base : Database) (s : Server ι) : Prop where
  matched : ∃ t, Matches d1 newestPoints requests s t
  sound : s.database.Sound d1
  extends_base : base.Extends s.database

theorem Server.Regular.step {base : Database}
    (h : s.Regular d1 newestPoints requests base) {label : Option (Serving ι)}
    (hstep : Server.Step d1 newestPoints requests s label s') :
    s'.Regular d1 newestPoints requests base := by
  obtain ⟨t, ht⟩ := h.matched
  obtain ⟨t', -, ht'⟩ := matches_simulates ht hstep
  obtain ⟨hsound, hextends⟩ := hstep.sound ht
  exact ⟨⟨t', ht'⟩, hsound h.sound, h.extends_base.trans hextends⟩

theorem Server.Regular.run {base : Database} (h : s.Regular d1 newestPoints requests base)
    {labels : List (Option (Serving ι))}
    (hrun : Transition.Run (Server.Step d1 newestPoints requests) s labels s') :
    s'.Regular d1 newestPoints requests base :=
  hrun.invariant (Q := fun _ => True) (fun _ _ _ _ hw hstep => hw.step hstep)
    (fun _ _ => trivial) h

/-- However the handlers interleave and whichever of their statements fail, the database
keeps what the schema promises between any two statements, and no row is ever changed or
removed. -/
theorem database_sound {db : Database} {labels labels' : List (Option (Serving ι))}
    (hsound : db.Sound d1) {u : Server ι}
    (hbefore : Transition.Run (Server.Step d1 newestPoints requests) (.start db) labels u)
    (hafter : Transition.Run (Server.Step d1 newestPoints requests) u labels' s) :
    u.database.Sound d1 ∧ s.database.Sound d1 ∧ u.database.Extends s.database := by
  have hstart : (Server.start db : Server ι).Regular d1 newestPoints requests db :=
    ⟨⟨.start db, Matches.start db⟩, hsound, .refl db⟩
  have hmiddle := hstart.run hbefore
  have hend : s.Regular d1 newestPoints requests u.database :=
    Server.Regular.run ⟨hmiddle.matched, hmiddle.sound, .refl _⟩ hafter
  exact ⟨hmiddle.sound, hend.sound, hend.extends_base⟩

theorem Database.sound_empty (d1 : D1) : Database.Sound d1 .empty where
  known := by simp [empty, Keyed.empty]
  notNull := by simp [empty, Keyed.empty]
  typed := by simp [empty, Keyed.empty]
  hashed := by simp [empty, NullKeyed.empty]

theorem database_sound_two_readings :
    ∃ s : Server ℕ, s.database.Sound .plain ∧ Database.empty.Extends s.database := by
  obtain ⟨s, hrun⟩ := exists_interleaving
  obtain ⟨-, hsound, hextends⟩ := database_sound (Database.sound_empty _) .nil hrun
  exact ⟨s, hsound, hextends⟩

end Interleavings

end Bossa.Worker
