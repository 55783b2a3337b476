import Bossa.Worker.Answer

/-!
# Histories of requests

The edge retries a batch whenever it did not see an answer, so the Worker may process a
request, or parts of it, many times, with requests of other nodes in between. The points
it stores depend on the sequence of requests only: every key keeps the first valid
sample that came with it.
-/

namespace Bossa.Worker

/-- The request stores its batch when no statement fails of itself. -/
structure Request.Stores (d1 : D1) (request : Request) (nodeId : Json) (samples : List Json) :
    Prop where
  batch : request.batch? = some (nodeId, samples)
  saves : ∃ v, Saves d1 {} nodeId v
  commits : Commits d1 {} nodeId samples

/-- The rows of a request: those of its valid samples, in their order, if its batch is
stored. -/
def Request.points (d1 : D1) (request : Request) : List TelemetryPoint :=
  match request.batch? with
  | none => []
  | some (nodeId, samples) =>
      if (d1.bind (some nodeId)).toOption.isSome ∧ Commits d1 {} nodeId samples then
        validPoints d1 nodeId samples
      else []

def Request.node? (d1 : D1) (request : Request) : Option SqlValue := do
  let (nodeId, _) ← request.batch?
  let v ← (d1.bind (some nodeId)).toOption
  some (d1.toText v)

section Requests

variable {d1 : D1} {now : Bytes} {request : Request} {db : Database}

theorem toOption_eq_some_iff {ε α : Type*} {x : Except ε α} {a : α} :
    x.toOption = some a ↔ x = .ok a := by
  cases x <;> simp [Except.toOption]

theorem Request.Stores.points {nodeId : Json} {samples : List Json}
    (h : request.Stores d1 nodeId samples) :
    request.points d1 = validPoints d1 nodeId samples := by
  obtain ⟨v, -, hv⟩ := h.saves
  simp only [Request.points, h.batch]
  exact if_pos ⟨by rw [hv]; rfl, h.commits⟩

theorem Request.points_eq_nil (h : ∀ nodeId samples, ¬ request.Stores d1 nodeId samples) :
    request.points d1 = [] := by
  unfold Request.points
  split
  · rfl
  · next nodeId samples hbatch =>
      refine if_neg fun ⟨hbind, hcommits⟩ => h nodeId samples ⟨hbatch, ?_, hcommits⟩
      obtain ⟨v, hv⟩ := Option.isSome_iff_exists.mp hbind
      exact ⟨v, rfl, toOption_eq_some_iff.mp hv⟩

theorem Request.exists_stores {p : TelemetryPoint} (hp : p ∈ request.points d1) :
    ∃ nodeId samples, request.Stores d1 nodeId samples := by
  by_contra hnone
  rw [Request.points_eq_nil fun nodeId samples h => hnone ⟨nodeId, samples, h⟩] at hp
  cases hp

theorem handleTelemetry_telemetryPoints :
    (handleTelemetry d1 {} now request db).2.telemetryPoints =
      db.telemetryPoints.insertAll (request.points d1) := by
  by_cases hstores : ∃ nodeId samples, request.Stores d1 nodeId samples
  · obtain ⟨nodeId, samples, h⟩ := hstores
    obtain ⟨v, hsaves⟩ := h.saves
    rw [handleTelemetry_of_batch h.batch, ingest_of_commits hsaves h.commits, h.points]
  · rw [Request.points_eq_nil fun nodeId samples h => hstores ⟨nodeId, samples, h⟩,
      Keyed.insertAll_nil]
    cases hbatch : request.batch? with
    | none => rw [(@handleTelemetry_of_no_batch d1 {} now request db hbatch).2.1]
    | some batch =>
        obtain ⟨nodeId, samples⟩ := batch
        rw [handleTelemetry_of_batch hbatch]
        by_cases hsaves : ∃ v, Saves d1 {} nodeId v
        · obtain ⟨v, hv⟩ := hsaves
          obtain ⟨e, he⟩ := @ingest_of_not_commits d1 {} now nodeId samples v db hv
            fun hcommits => hstores ⟨nodeId, samples, hbatch, ⟨v, hv⟩, hcommits⟩
          rw [he]
          rfl
        · obtain ⟨e, he⟩ := @ingest_of_not_saves d1 {} now nodeId samples db
            fun v hv => hsaves ⟨v, hv⟩
          rw [he]

end Requests

section Histories

variable {d1 : D1} {db : Database}

theorem rows_prefix_handleTelemetry (faults : StatementFaults) (now : Bytes)
    (request : Request) :
    db.telemetryPoints.rows <+:
      (handleTelemetry d1 faults now request db).2.telemetryPoints.rows := by
  rcases @handleTelemetry_cases d1 faults now db request with
    ⟨-, -, -, -, points, -, -, -, -, hrows⟩ | ⟨-, hrows⟩
  · rw [hrows]
    exact Keyed.rows_prefix_insertAll points _
  · simp only [hrows, List.prefix_rfl]

theorem nodeId_of_mem_points {request : Request} {p : TelemetryPoint}
    (hp : p ∈ request.points d1) : request.node? d1 = some p.nodeId := by
  obtain ⟨nodeId, samples, hstores⟩ := Request.exists_stores hp
  obtain ⟨v, -, hv⟩ := hstores.saves
  rw [hstores.points] at hp
  obtain ⟨sample, -, -, hpoint⟩ := mem_validPoints.mp hp
  simp [Request.node?, hstores.batch, hv, Except.toOption, samplePoint_nodeId hv hpoint]

end Histories

end Bossa.Worker
