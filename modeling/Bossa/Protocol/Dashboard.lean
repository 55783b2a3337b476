import Bossa.Data.Chronology
import Bossa.Protocol.Wire
import Bossa.Worker.Reads

/-!
# The newest points of the edges

The Worker sorts the points by the text of their timestamps, and the edges write the
texts. For the instants that the system clock can count the order of the texts is the
order in time, so a reader is shown what the edges sampled last: an acknowledged sample
is missing only when a hundred samples that are no older are shown.
-/

namespace Bossa.Protocol

open Telemetry Storage Sync Worker

/-- The instants that a 64-bit count of nanoseconds can name. -/
def ClockRange (timestamp : ℤ) : Prop := -2 ^ 63 ≤ timestamp ∧ timestamp < 2 ^ 63

theorem le_formatTime_iff {a b : ℤ} (ha : ClockRange a) (hb : ClockRange b) :
    Bytes.le (formatTime a) (formatTime b) = true ↔
      a.tdiv 1000000000 ≤ b.tdiv 1000000000 := by
  have hyear : ∀ t, ClockRange t → Civil.FourDigitYear (t.tdiv 1000000000) := by
    rintro t ⟨h0, h1⟩
    have hsplit := Int.mul_tdiv_add_tmod t 1000000000
    have hlt := Int.tmod_lt_of_pos t (show (0 : ℤ) < 1000000000 by decide)
    have hgt := Int.lt_tmod_of_pos t (show (0 : ℤ) < 1000000000 by decide)
    unfold Civil.FourDigitYear
    omega
  exact Civil.le_text_iff (hyear a ha) (hyear b hb)

/-- The request is one of an edge node, with samples of its clock. -/
structure SentBy (node : Bytes) (samples : List StoredSample) (request : FetchRequest) :
    Prop where
  isTelemetry : request.isTelemetry = true
  built : ∃ (u : HttpUploader) (sentAt : ℤ) (http : HttpRequest), u.nodeId = node ∧
    u.request sentAt samples = .ok http ∧ request.toRequest = toRequest http
  clock : ∀ x ∈ samples, ClockRange x.timestamp

section Rows

variable {ι : Type*} [DecidableEq ι] {d1 : D1} {newestPoints : NewestPoints}
  {requests : ι → FetchRequest} {s t : Serial ι}

/-- The row was made of a sample of an edge. -/
def FromEdge (requests : ι → FetchRequest) (p : TelemetryPoint) : Prop :=
  ∃ i node samples x, SentBy node samples (requests i) ∧ x ∈ samples ∧ p = wirePoint node x

/-- Handling a request of an edge stores rows of its samples. -/
theorem fromEdge_of_step
    (hedges : ∀ i, (requests i).isTelemetry = true →
      ∃ node samples, SentBy node samples (requests i)) {serving : Serving ι}
    (h : Serial.Step d1 newestPoints requests s serving t)
    (hs : ∀ p ∈ s.database.telemetryPoints.rows, FromEdge requests p) :
    ∀ p ∈ t.database.telemetryPoints.rows, FromEdge requests p := by
  obtain ⟨-, rfl⟩ := h
  intro p hp
  unfold fetch at hp
  split at hp
  · next htelemetry =>
      obtain ⟨node, samples, hsent⟩ := hedges _ htelemetry
      obtain ⟨u, sentAt, http, rfl, hrequest, heq⟩ := hsent.built
      dsimp only at hp
      rw [heq] at hp
      rcases @handleTelemetry_request d1 serving.faults.toStatementFaults serving.now s.database
        _ _ _ _ hrequest with ⟨-, -, hrows⟩ | ⟨-, hrows⟩
      · rw [hrows] at hp
        rcases Keyed.mem_insertAll hp with hp | hp
        · exact hs p hp
        · obtain ⟨x, hx, rfl⟩ := List.mem_map.mp hp
          exact ⟨serving.index, u.nodeId, samples, x, hsent, List.mem_of_mem_filter hx, rfl⟩
      · rw [hrows] at hp
        exact hs p hp
  · exact hs p hp

theorem fromEdge_of_run
    (hedges : ∀ i, (requests i).isTelemetry = true →
      ∃ node samples, SentBy node samples (requests i)) {servings : List (Serving ι)}
    (hrun : Transition.Run (Serial.Step d1 newestPoints requests) (.start .empty) servings t) :
    ∀ p ∈ t.database.telemetryPoints.rows, FromEdge requests p :=
  hrun.invariant (Q := fun _ => True)
    (P := fun s => ∀ p ∈ s.database.telemetryPoints.rows, FromEdge requests p)
    (fun _ _ _ _ hs hstep => fromEdge_of_step hedges hstep hs) (fun _ _ => trivial)
    (by simp [Serial.start, Database.empty, Keyed.empty])

/-- When the answer to a request of an edge is 202 its complete samples have rows. -/
theorem held_of_sentBy {before after : List (Serving ι)} {serving : Serving ι} {node : Bytes}
    {samples : List StoredSample} {body : Body}
    (hsent : SentBy node samples (requests serving.index))
    (hrun : Transition.Run (Serial.Step d1 newestPoints requests) s
      (before ++ serving :: after) t)
    (hanswer : t.answers serving.index = some (.ok ⟨202, body⟩)) :
    ∃ v : Serial ι, Transition.Run (Serial.Step d1 newestPoints requests) s
        (before ++ [serving]) v ∧
      Transition.Run (Serial.Step d1 newestPoints requests) v after t ∧
      ∀ x ∈ samples, Complete x → wireKey node x ∈ v.database.telemetryPoints.keys := by
  obtain ⟨u, v, hbefore, hafter, hv, hfetch⟩ := Serial.answer_of_run hrun
  refine ⟨v, hbefore, hafter, fun x hx hcomplete => ?_⟩
  have haccepted := handleTelemetry_of_fetch hsent.isTelemetry
    (Option.some.inj (hfetch.symm.trans hanswer))
  obtain ⟨http, sentAt, request, rfl, hrequest, heq⟩ := hsent.built
  rw [fetch, if_pos hsent.isTelemetry] at hv
  rw [heq] at hv haccepted
  rcases @handleTelemetry_request d1 serving.faults.toStatementFaults serving.now u.database
    _ _ _ _ hrequest with ⟨-, -, hrows⟩ | ⟨hrefused, -⟩
  · rw [hv, hrows, ← wirePoint_key]
    exact Keyed.key_mem_insertAll _
      (List.mem_map_of_mem (List.mem_filter.mpr ⟨hx, decide_eq_true hcomplete⟩))
  · exact absurd haccepted hrefused

end Rows

section Deployment

def clockSample : StoredSample :=
  { (default : StoredSample) with
    channelId := .ofPrefix 63 (Bytes.ascii "t")
    unit := .ofPrefix 31 (Bytes.ascii "C")
    timestamp := 1783691099000000000 }

def clockUploader : HttpUploader :=
  ⟨true, Bytes.ascii "http://worker", Bytes.ascii "edge-1", Bytes.ascii "key", 30⟩

def clockRequest : HttpRequest where
  url := joinUrl clockUploader.serverUrl HttpUploader.telemetryPath
  headers := clockUploader.headers
  body := (payload clockUploader.nodeId 0 [clockSample]).written
  timeoutSeconds := clockUploader.timeoutSeconds

/-- The request with the reading, and requests for the points. -/
def clockRequests : ℕ → FetchRequest
  | 0 =>
      { toRequest clockRequest with
        method := Bytes.ascii "POST"
        pathname := Bytes.ascii "/api/v1/telemetry" }
  | _ => dataRequest

theorem sentBy_clockRequests :
    SentBy (Bytes.ascii "edge-1") [clockSample] (clockRequests 0) where
  isTelemetry := by decide
  built := ⟨clockUploader, 0, clockRequest, rfl,
    HttpUploader.request_eq_ok_iff.mpr ⟨⟨by decide, by decide⟩, rfl⟩, rfl⟩
  clock := by
    intro x hx
    rw [List.mem_singleton.mp hx]
    exact ⟨by decide, by decide⟩

theorem exists_clockRun :
    ∃ s : Server ℕ, ∃ rows, Transition.Run (Server.Step .plain .stable clockRequests)
        (.start .empty) [none, some ⟨0, [], {}⟩, some ⟨1, [], {}⟩] s ∧
      (∃ body, s.stage 0 = .answered (.ok ⟨202, body⟩)) ∧
      s.stage 1 = .answered (.ok ⟨200, .points rows⟩) :=
  ⟨_, _, ((Transition.Run.nil.snoc
    (@Server.Step.prepare _ _ _ _ _ _ 0 [] _ {} _ _ rfl rfl)).snoc
    (@Server.Step.write _ _ _ _ _ _ 0 _ false _ _ _ rfl rfl)).snoc
    (@Server.Step.answer _ _ _ _ _ _ 1 [] {} _ _ rfl rfl), ⟨_, rfl⟩, rfl⟩

end Deployment

section Newest

variable {ι : Type*} [DecidableEq ι] {d1 : D1} {newestPoints : NewestPoints}
  {requests : ι → FetchRequest} {s : Server ι} {labels : List (Option (Serving ι))}
  {before middle after : List (Serving ι)} {first last : Serving ι}
  {rows : List TelemetryPoint}

/-- What an edge has sent and the Worker has accepted is shown to every later reader, or a
hundred samples of the edges that were taken in the same second or later. -/
theorem newest_by_time
    (hrun : Transition.Run (Server.Step d1 newestPoints requests) (.start .empty) labels s)
    (hedges : ∀ i, (requests i).isTelemetry = true →
      ∃ node samples, SentBy node samples (requests i))
    (hlabels : labels.reduceOption = before ++ first :: (middle ++ last :: after))
    {node : Bytes} {samples : List StoredSample}
    (hsent : SentBy node samples (requests first.index)) {body : Body}
    (haccepted : s.stage first.index = .answered (.ok ⟨202, body⟩))
    (hlast : (requests last.index).isData = true)
    (hrows : s.stage last.index = .answered (.ok ⟨200, .points rows⟩))
    {x : StoredSample} (hx : x ∈ samples) (hcomplete : Complete x) :
    (∃ q ∈ rows, q.key = wireKey node x) ∨
      rows.length = 100 ∧ ∀ q ∈ rows, ∃ i node' samples' y,
        SentBy node' samples' (requests i) ∧ y ∈ samples' ∧ q = wirePoint node' y ∧
          x.timestamp.tdiv 1000000000 ≤ y.timestamp.tdiv 1000000000 := by
  obtain ⟨t, hserial, hmatches⟩ := matches_of_run hrun
  have hanswer := hmatches.answers first.index
    (FetchRequest.isNodes_of_isTelemetry hsent.isTelemetry)
  have hanswer' := hmatches.answers last.index (FetchRequest.isNodes_of_isData hlast)
  rw [haccepted] at hanswer
  rw [hrows] at hanswer'
  rw [hlabels] at hserial
  obtain ⟨v, hbefore, hlater, hheld⟩ := held_of_sentBy hsent hserial hanswer
  obtain ⟨w, hmiddle, -, rfl⟩ := Serial.shown_of_run hlast hlater hanswer'
  obtain ⟨q, hq, hkey⟩ := Keyed.mem_keys.mp (hheld x hx hcomplete)
  have hrow := (Serial.final_of_run hmiddle).1.subset hq
  rcases newestPoints.shown hrow with hshown | ⟨hlength, hnewer⟩
  · exact .inl ⟨q, hshown, hkey⟩
  · refine .inr ⟨hlength, fun p hp => ?_⟩
    obtain ⟨i, node', samples', y, hsent', hy, rfl⟩ :=
      fromEdge_of_run hedges (hbefore.append hmiddle) p ((newestPoints.subperm _).subset hp)
    have hle := hnewer _ hp
    have htimestamp : q.timestamp = .text (formatTime x.timestamp) :=
      congrArg PointKey.timestamp hkey
    rw [htimestamp] at hle
    exact ⟨i, node', samples', y, hsent', hy, rfl,
      (le_formatTime_iff (hsent.clock x hx) (hsent'.clock y hy)).mp hle⟩

theorem newest_by_time_one_edge :
    ∃ (s : Server ℕ) (rows : List TelemetryPoint),
      s.stage 1 = .answered (.ok ⟨200, .points rows⟩) ∧
      ((∃ q ∈ rows, q.key = wireKey (Bytes.ascii "edge-1") clockSample) ∨
        rows.length = 100 ∧ ∀ q ∈ rows, ∃ i node samples y,
          SentBy node samples (clockRequests i) ∧ y ∈ samples ∧ q = wirePoint node y ∧
            clockSample.timestamp.tdiv 1000000000 ≤ y.timestamp.tdiv 1000000000) := by
  obtain ⟨s, rows, hrun, ⟨body, hbody⟩, hrows⟩ := exists_clockRun
  have hedges : ∀ i, (clockRequests i).isTelemetry = true →
      ∃ node samples, SentBy node samples (clockRequests i) := by
    intro i hi
    cases i with
    | zero => exact ⟨_, _, sentBy_clockRequests⟩
    | succ i => exact absurd hi (by change ¬ dataRequest.isTelemetry = true; decide)
  have hnewest := @newest_by_time _ _ _ _ _ _ _ [] [] [] ⟨0, [], {}⟩ ⟨1, [], {}⟩ rows hrun
    hedges rfl _ _ sentBy_clockRequests body hbody (by decide) hrows clockSample
    (List.mem_singleton_self _) (by decide)
  exact ⟨s, rows, hrows, hnewest⟩

end Newest

end Bossa.Protocol
