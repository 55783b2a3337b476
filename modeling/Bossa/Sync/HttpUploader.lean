import Bossa.Storage.LocalStore
import Bossa.Sync.Payload

/-!
# The uploader

`src/sync/http_uploader.cpp`. It posts batches to the server, persists a batch
whose upload failed and retries the persisted rows. The HTTP client is an
argument, a function from requests to responses; so are the outcomes of the
SQLite statements. What an attempt did besides its result is listed in an
`Attempt`: the exchange with the server and the statements on the table.
-/

namespace Bossa.Sync

open Telemetry Storage

/-- The arguments of `HttpClient::post`. -/
structure HttpRequest where
  url : Bytes
  headers : List (Bytes × Bytes)
  body : Json
  timeoutSeconds : ℤ

/-- What `HttpClient::post` returns, without the body of the response. -/
structure HttpResponse where
  statusCode : ℤ
  error : Bytes
  deriving DecidableEq, Repr

/-- An HTTP client. -/
abbrev HttpClient := HttpRequest → HttpResponse

/-- Outcome of an upload attempt. -/
inductive UploadResult where
  | accepted
  | rejected
  | transientFailure
  deriving DecidableEq, Repr

/-- An `HttpUploader`. Its store is the store of the runtime, if it has one. -/
structure HttpUploader where
  hasStore : Bool
  serverUrl : Bytes
  nodeId : Bytes
  apiKey : Bytes
  timeoutSeconds : ℤ
  deriving DecidableEq, Repr

/-- The elements of `samples` in the body of a request. -/
def HttpRequest.records (request : HttpRequest) : List Json :=
  match request.body with
  | .obj members =>
      match Json.member? (Bytes.ascii "samples") members with
      | some (.arr items) => items
      | _ => []
  | _ => []

/-- A request, the samples whose records its body carries, and the response. -/
structure Exchange where
  samples : List StoredSample
  request : HttpRequest
  response : HttpResponse
  records_eq : request.records = samples.map fun s => (wireSample s).toJson.written

/-- A statement on `pending_uploads` and whether it succeeded. -/
inductive Statement where
  | insert (sample : StoredSample) (ok : Bool)
  | select (ok : Bool)
  | count (ok : Bool)
  | delete (row : PendingRow) (ok : Bool)
  deriving DecidableEq, Repr

namespace Statement

def ok : Statement → Bool
  | insert _ ok => ok
  | select ok => ok
  | count ok => ok
  | delete _ ok => ok

end Statement

/-- The faults of the SQLite statements of an attempt: of each insertion of a
batch, of the query, and of each deletion. -/
structure StoreFaults where
  insert : ℕ → Option Bytes := fun _ => none
  select : Option ℕ := none
  delete : ℕ → Option Bytes := fun _ => none

/-- What an attempt did. -/
structure Attempt where
  result : UploadResult
  exchange : Option Exchange
  statements : List Statement
  store : LocalStore

/-- `join_url`. -/
def joinUrl (base path : Bytes) : Bytes :=
  (if base.getLast? = some 47 then base.dropLast else base) ++ path

theorem formatTime_unixMsToTime (t : ℤ) :
    formatTime (unixMsToTime (timeToUnixMs t)) = formatTime t := by
  have hnonneg : ∀ n : ℤ, 0 ≤ n →
      (n.tdiv 1000000 * 1000000).tdiv 1000000000 = n.tdiv 1000000000 := by
    intro n hn
    have hmillis : 0 ≤ n.tdiv 1000000 := Int.tdiv_nonneg hn (by decide)
    rw [Int.tdiv_eq_ediv_of_nonneg (by omega), Int.tdiv_eq_ediv_of_nonneg hn,
      Int.tdiv_eq_ediv_of_nonneg hn]
    omega
  rw [formatTime_eq_iff, unixMsToTime, timeToUnixMs]
  rcases le_total 0 t with ht | ht
  · exact hnonneg t ht
  · have hneg := hnonneg (-t) (by omega)
    rwa [Int.neg_tdiv, Int.neg_tdiv, Int.neg_mul, Int.neg_tdiv, neg_inj] at hneg

theorem wireSample_toRow_ofSample (id : ℤ) (sample : StoredSample) :
    wireSample (PendingUpload.ofSample id sample).toRow.sample = wireSample sample := by
  simp only [wireSample, PendingUpload.toRow, PendingUpload.ofSample,
    CharArray.cString_ofPrefix_cString, formatTime_unixMsToTime,
    qualityFromString_qualityToString]

namespace HttpUploader

/-- `HttpUploader::kTelemetryPath`. -/
def telemetryPath : Bytes := Bytes.ascii "/api/v1/telemetry"

/-- `HttpUploader::interpret_response`. -/
def interpretResponse (response : HttpResponse) : UploadResult :=
  if response.error ≠ [] ∨ response.statusCode = 0 then .transientFailure
  else if response.statusCode = 202 ∨ response.statusCode = 200 then .accepted
  else if response.statusCode = 400 then .rejected
  else if response.statusCode = 401 ∨ response.statusCode = 503 ∨
      response.statusCode ≥ 500 then .transientFailure
  else .transientFailure

def headers (u : HttpUploader) : List (Bytes × Bytes) :=
  if u.apiKey ≠ [] then
    [(Bytes.ascii "Authorization", Bytes.ascii "Bearer " ++ u.apiKey)]
  else []

/-- The request that posts a batch, unless its payload cannot be built. -/
def request (u : HttpUploader) (sentAt : ℤ) (samples : List StoredSample) :
    Except Abort HttpRequest := do
  let body ← buildPayload u.nodeId sentAt samples
  pure
    { url := joinUrl u.serverUrl telemetryPath
      headers := u.headers
      body := body
      timeoutSeconds := u.timeoutSeconds }

theorem request_eq_ok_iff {u : HttpUploader} {sentAt : ℤ} {samples : List StoredSample}
    {request : HttpRequest} :
    u.request sentAt samples = .ok request ↔
      (Bytes.validUtf8 u.nodeId = true ∧ ∀ s ∈ samples, ValidText s) ∧
        request =
          { url := joinUrl u.serverUrl telemetryPath
            headers := u.headers
            body := (payload u.nodeId sentAt samples).written
            timeoutSeconds := u.timeoutSeconds } := by
  simp only [HttpUploader.request, Abort.bind_eq_ok_iff, buildPayload_eq_ok_iff,
    Abort.pure_eq_ok_iff]
  constructor
  · rintro ⟨body, ⟨hvalid, rfl⟩, rfl⟩
    exact ⟨hvalid, rfl⟩
  · rintro ⟨hvalid, rfl⟩
    exact ⟨_, ⟨hvalid, rfl⟩, rfl⟩

theorem request_isOk_iff {u : HttpUploader} {sentAt : ℤ} {samples : List StoredSample} :
    (∃ request, u.request sentAt samples = .ok request) ↔
      Bytes.validUtf8 u.nodeId = true ∧ ∀ s ∈ samples, ValidText s := by
  simp only [request_eq_ok_iff, exists_and_left, exists_eq, and_true]

theorem records_request {u : HttpUploader} {sentAt : ℤ} {samples : List StoredSample}
    {request : HttpRequest} (h : u.request sentAt samples = .ok request) :
    request.records = samples.map fun s => (wireSample s).toJson.written := by
  obtain ⟨-, rfl⟩ := request_eq_ok_iff.mp h
  have hmember : Json.member? (Bytes.ascii "samples")
      [(Bytes.ascii "node_id", .str u.nodeId),
        (Bytes.ascii "samples", .arr (samples.map fun s => (wireSample s).toJson.written)),
        (Bytes.ascii "sent_at", .str (formatTime sentAt))] =
      some (.arr (samples.map fun s => (wireSample s).toJson.written)) := by
    rw [Json.member?, List.reverse_cons]
    rfl
  simp only [HttpRequest.records, payload, Json.written, Json.writtenMembers,
    Json.writtenItems_eq_map, List.map_map, Function.comp_def, hmember]

/-- The POST of a batch, unless its payload cannot be built. -/
def post (u : HttpUploader) (client : HttpClient) (sentAt : ℤ) (samples : List StoredSample) :
    Except Abort Exchange :=
  match h : u.request sentAt samples with
  | .error e => .error e
  | .ok request => .ok ⟨samples, request, client request, records_request h⟩

theorem post_eq_ok_iff {u : HttpUploader} {client : HttpClient} {sentAt : ℤ}
    {samples : List StoredSample} {exchange : Exchange} :
    u.post client sentAt samples = .ok exchange ↔
      ∃ request, ∃ h : u.request sentAt samples = .ok request,
        exchange = ⟨samples, request, client request, records_request h⟩ := by
  unfold post
  split
  · next hrequest => simp [hrequest]
  · next request hrequest =>
      constructor
      · intro h
        cases h
        exact ⟨request, hrequest, rfl⟩
      · rintro ⟨request', hrequest', rfl⟩
        cases hrequest.symm.trans hrequest'
        rfl

/-- The loop of `persist_all`: whether all samples were persisted, the
statements and the store. -/
def persistSamples (fault : ℕ → Option Bytes) :
    List StoredSample → LocalStore → Bool × List Statement × LocalStore
  | [], store => (true, [], store)
  | sample :: samples, store =>
      let (ok, store) := store.enqueue (fault 0) sample
      let (rest, statements, store) := persistSamples (fun i => fault (i + 1)) samples store
      (ok && rest, .insert sample ok :: statements, store)

/-- `HttpUploader::persist_all`. -/
def persistAll (u : HttpUploader) (fault : ℕ → Option Bytes)
    (samples : List StoredSample) (store : LocalStore) :
    Bool × List Statement × LocalStore :=
  if u.hasStore then persistSamples fault samples store else (false, [], store)

/-- `HttpUploader::upload`. -/
def upload (u : HttpUploader) (client : HttpClient) (faults : StoreFaults) (sentAt : ℤ)
    (samples : List StoredSample) (store : LocalStore) : Except Abort Attempt :=
  if samples = [] then pure ⟨.accepted, none, [], store⟩
  else do
    let exchange ← u.post client sentAt samples
    match interpretResponse exchange.response with
    | .accepted => pure ⟨.accepted, some exchange, [], store⟩
    | .rejected => pure ⟨.rejected, some exchange, [], store⟩
    | .transientFailure =>
        let (_, statements, store) := u.persistAll faults.insert samples store
        pure ⟨.transientFailure, some exchange, statements, store⟩

/-- The loop that acknowledges the rows of an accepted batch. -/
def acknowledgeRows (fault : ℕ → Option Bytes) :
    List PendingRow → LocalStore → List Statement × LocalStore
  | [], store => ([], store)
  | row :: rows, store =>
      let (ok, store) := store.acknowledge (fault 0) row.id
      let (statements, store) := acknowledgeRows (fun i => fault (i + 1)) rows store
      (.delete row ok :: statements, store)

/-- `HttpUploader::retry_pending`. -/
def retryPending (u : HttpUploader) (client : HttpClient) (faults : StoreFaults)
    (sentAt : ℤ) (maxBatch : ℕ) (store : LocalStore) : Except Abort Attempt :=
  if !u.hasStore then pure ⟨.accepted, none, [], store⟩
  else
    let rows := store.peekBatch faults.select maxBatch
    let query := Statement.select faults.select.isNone
    if rows = [] then pure ⟨.accepted, none, [query], store⟩
    else do
      let exchange ← u.post client sentAt (rows.map PendingRow.sample)
      match interpretResponse exchange.response with
      | .accepted =>
          let (statements, store) := acknowledgeRows faults.delete rows store
          pure ⟨.accepted, some exchange, query :: statements, store⟩
      | result => pure ⟨result, some exchange, [query], store⟩

theorem persistSamples_cons (fault : ℕ → Option Bytes) (sample : StoredSample)
    (samples : List StoredSample) (store : LocalStore) :
    (persistSamples fault (sample :: samples) store).2.2 =
      (persistSamples (fun i => fault (i + 1)) samples
        (store.enqueue (fault 0) sample).2).2.2 := rfl

theorem acknowledgeRows_cons (fault : ℕ → Option Bytes) (row : PendingRow)
    (rows : List PendingRow) (store : LocalStore) :
    (acknowledgeRows fault (row :: rows) store).2 =
      (acknowledgeRows (fun i => fault (i + 1)) rows
        (store.acknowledge (fault 0) row.id).2).2 := rfl

/-- Persisting keeps the rows of before, and every new row is of a sample of the
batch. -/
theorem persistSamples_rows :
    ∀ (samples : List StoredSample) (fault : ℕ → Option Bytes) (store : LocalStore),
      ∃ new, (persistSamples fault samples store).2.2.rows = store.rows ++ new ∧
        ∀ r ∈ new, ∃ sample ∈ samples, ∃ id, r = .ofSample id sample
  | [], _, store => ⟨[], (List.append_nil _).symm, by simp⟩
  | sample :: samples, fault, store => by
      obtain ⟨new, hrows, hnew⟩ :=
        persistSamples_rows samples (fun i => fault (i + 1)) (store.enqueue (fault 0) sample).2
      have hlater : ∀ r ∈ new, ∃ s ∈ sample :: samples, ∃ id, r = .ofSample id s := by
        intro r hr
        obtain ⟨s, hs, hrow⟩ := hnew r hr
        exact ⟨s, List.mem_cons_of_mem _ hs, hrow⟩
      rcases (store.enqueue_eq (fault 0) sample).2 with ⟨-, heq⟩ | ⟨-, id, heq⟩
      · exact ⟨new, by rw [← heq, ← hrows]; rfl, hlater⟩
      · refine ⟨.ofSample id sample :: new, ?_, ?_⟩
        · calc (persistSamples fault (sample :: samples) store).2.2.rows
              = (store.enqueue (fault 0) sample).2.rows ++ new := hrows
            _ = store.rows ++ .ofSample id sample :: new := by
              rw [heq, List.append_assoc, List.singleton_append]
        · exact List.forall_mem_cons.mpr ⟨⟨sample, List.mem_cons_self, id, rfl⟩, hlater⟩

theorem exists_mem_persistSamples :
    ∀ {samples : List StoredSample} {store : LocalStore}, store.db ≠ none →
      (∀ s ∈ samples, s.value ≠ .nan) → ∀ s ∈ samples,
        ∃ id, .ofSample id s ∈ (persistSamples (fun _ => none) samples store).2.2.rows
  | sample :: samples, store, hdb, hvalues, s, hs => by
      rw [List.forall_mem_cons] at hvalues
      obtain ⟨hsame, hrow⟩ := store.enqueue_eq none sample
      have hinserted := store.enqueue_none hdb hvalues.1
      obtain ⟨new, hrows, -⟩ := persistSamples_rows samples (fun _ => none)
        (store.enqueue none sample).2
      rw [persistSamples_cons]
      rcases List.mem_cons.mp hs with rfl | hs
      · obtain ⟨id, hid⟩ := hinserted
        exact ⟨id, by simp [hrows, hid]⟩
      · exact exists_mem_persistSamples (by rwa [hsame]) hvalues.2 s hs

theorem persistSamples_db :
    ∀ (samples : List StoredSample) (fault : ℕ → Option Bytes) (store : LocalStore),
      (persistSamples fault samples store).2.2.db = store.db
  | [], _, _ => rfl
  | sample :: samples, fault, store =>
      (persistSamples_db samples (fun i => fault (i + 1)) _).trans
        (store.enqueue_eq (fault 0) sample).1

theorem persistAll_rows (u : HttpUploader) (samples : List StoredSample)
    (fault : ℕ → Option Bytes) (store : LocalStore) :
    ∃ new, (u.persistAll fault samples store).2.2.rows = store.rows ++ new ∧
      ∀ r ∈ new, ∃ sample ∈ samples, ∃ id, r = .ofSample id sample := by
  unfold persistAll
  split
  · exact persistSamples_rows samples fault store
  · exact ⟨[], (List.append_nil _).symm, by simp⟩

theorem acknowledgeRows_rows :
    ∀ (rows : List PendingRow) (fault : ℕ → Option Bytes) (store : LocalStore),
      (acknowledgeRows fault rows store).2.rows.Sublist store.rows
  | [], _, store => .refl _
  | row :: rows, fault, store => by
      have hrest := acknowledgeRows_rows rows (fun i => fault (i + 1))
        (store.acknowledge (fault 0) row.id).2
      rcases (store.acknowledge_eq (fault 0) row.id).2 with ⟨-, heq⟩ | ⟨-, heq⟩
      · exact heq ▸ hrest
      · exact hrest.trans (heq ▸ List.filter_sublist)

theorem acknowledgeRows_db :
    ∀ (rows : List PendingRow) (fault : ℕ → Option Bytes) (store : LocalStore),
      (acknowledgeRows fault rows store).2.db = store.db
  | [], _, _ => rfl
  | row :: rows, fault, store =>
      (acknowledgeRows_db rows (fun i => fault (i + 1)) _).trans
        (store.acknowledge_eq (fault 0) row.id).1

theorem mem_rows_acknowledgeRows {r : PendingUpload} :
    ∀ {rows : List PendingRow} {fault : ℕ → Option Bytes} {store : LocalStore},
      r ∈ store.rows → (∀ row ∈ rows, row.id ≠ r.id) →
        r ∈ (acknowledgeRows fault rows store).2.rows
  | [], _, _, hr, _ => hr
  | row :: rows, fault, store, hr, hids => by
      rw [List.forall_mem_cons] at hids
      rw [acknowledgeRows_cons]
      refine mem_rows_acknowledgeRows ?_ hids.2
      rcases (store.acknowledge_eq (fault 0) row.id).2 with ⟨-, heq⟩ | ⟨-, heq⟩
      · rwa [heq]
      · rw [heq]
        exact List.mem_filter.mpr ⟨hr, by simpa using hids.1.symm⟩

variable {u : HttpUploader} {client : HttpClient} {faults : StoreFaults} {sentAt : ℤ}
  {store : LocalStore} {attempt : Attempt}

theorem upload_isOk {samples : List StoredSample}
    (h : Bytes.validUtf8 u.nodeId = true ∧ ∀ s ∈ samples, ValidText s) :
    ∃ attempt, u.upload client faults sentAt samples store = .ok attempt := by
  unfold upload
  split
  · exact ⟨_, rfl⟩
  · obtain ⟨request, hrequest⟩ := request_isOk_iff.mpr h
    rw [post_eq_ok_iff.mpr ⟨request, hrequest, rfl⟩]
    dsimp only [bind, Except.bind]
    split <;> exact ⟨_, rfl⟩

/-- What an upload of a batch does: one exchange, and when it fails for the time
being the batch is persisted. -/
theorem upload_cases {samples : List StoredSample} (hne : samples ≠ [])
    (h : u.upload client faults sentAt samples store = .ok attempt) :
    ∃ request, ∃ h : u.request sentAt samples = .ok request,
      attempt.exchange = some ⟨samples, request, client request, records_request h⟩ ∧
      attempt.result = interpretResponse (client request) ∧
      ((attempt.result ≠ .transientFailure ∧ attempt.statements = [] ∧
          attempt.store = store) ∨
        (attempt.result = .transientFailure ∧
          attempt.statements = (u.persistAll faults.insert samples store).2.1 ∧
          attempt.store = (u.persistAll faults.insert samples store).2.2)) := by
  rw [upload, if_neg hne, Abort.bind_eq_ok_iff] at h
  obtain ⟨exchange, hpost, h⟩ := h
  obtain ⟨request, hrequest, rfl⟩ := post_eq_ok_iff.mp hpost
  refine ⟨request, hrequest, ?_⟩
  dsimp only at h
  split at h
  · next hresult =>
      cases h
      exact ⟨rfl, hresult.symm, .inl ⟨by simp, rfl, rfl⟩⟩
  · next hresult =>
      cases h
      exact ⟨rfl, hresult.symm, .inl ⟨by simp, rfl, rfl⟩⟩
  · next hresult =>
      cases h
      exact ⟨rfl, hresult.symm, .inr ⟨rfl, rfl, rfl⟩⟩

/-- What a retry does: nothing when no row is read, and otherwise one exchange,
and the rows are acknowledged when it was accepted. -/
theorem retryPending_cases {maxBatch : ℕ} (hstore : u.hasStore = true)
    (h : u.retryPending client faults sentAt maxBatch store = .ok attempt) :
    (store.peekBatch faults.select maxBatch = [] ∧
        attempt = ⟨.accepted, none, [.select faults.select.isNone], store⟩) ∨
      (store.peekBatch faults.select maxBatch ≠ [] ∧
        ∃ request, ∃ h : u.request sentAt
              ((store.peekBatch faults.select maxBatch).map PendingRow.sample) =
            .ok request,
          attempt.exchange =
            some ⟨(store.peekBatch faults.select maxBatch).map PendingRow.sample, request,
              client request, records_request h⟩ ∧
          attempt.result = interpretResponse (client request) ∧
          ((attempt.result ≠ .accepted ∧
              attempt.statements = [.select faults.select.isNone] ∧
              attempt.store = store) ∨
            (attempt.result = .accepted ∧
              attempt.statements = .select faults.select.isNone ::
                (acknowledgeRows faults.delete
                  (store.peekBatch faults.select maxBatch) store).1 ∧
              attempt.store = (acknowledgeRows faults.delete
                (store.peekBatch faults.select maxBatch) store).2))) := by
  rw [retryPending, if_neg (by simp [hstore])] at h
  dsimp only at h
  split at h
  · next hrows =>
      cases h
      exact .inl ⟨hrows, rfl⟩
  · next hrows =>
      rw [Abort.bind_eq_ok_iff] at h
      obtain ⟨exchange, hpost, h⟩ := h
      obtain ⟨request, hrequest, rfl⟩ := post_eq_ok_iff.mp hpost
      refine .inr ⟨hrows, request, hrequest, ?_⟩
      split at h
      · next hresult =>
          cases h
          exact ⟨rfl, hresult.symm, .inr ⟨rfl, rfl, rfl⟩⟩
      · next hresult =>
          cases h
          exact ⟨rfl, rfl, .inl ⟨hresult, rfl, rfl⟩⟩

end HttpUploader

end Bossa.Sync
