import Bossa.Protocol.Wire
import Bossa.Runtime.Ticks
import Bossa.Transition.Run

/-!
# The edge and the Worker

One edge node, the Worker and the network between them. The edge polls, flushes
and retries, one step after another in any order. A request may be lost on its
way to the Worker and a response on its way back, and then the edge sees an error.
A request that was sent may also reach the Worker later, and more than once.
The statements of SQLite and of D1 succeed unless they violate a constraint.

`posts`, `accepted` and `taken` keep the history: the exchanges of the edge, those
that the Worker has answered with 202, and the samples that flushes have taken out
of the ring buffer.
-/

namespace Bossa.Protocol

open Bossa.Core Telemetry Storage Sync Worker Bossa.Runtime

abbrev ErrorResponse :=
  { r : HttpResponse // HttpUploader.interpretResponse r = .transientFailure }

def timedOut : ErrorResponse :=
  ⟨⟨0, Bytes.ascii "timeout"⟩, rfl⟩

/-- What happens to a POST. -/
inductive Fate where
  | delivered
  | requestLost (error : ErrorResponse)
  | responseLost (error : ErrorResponse)

def Fate.reaches : Fate → Bool
  | delivered => true
  | requestLost _ => false
  | responseLost _ => true

def Fate.response (answer : Except Abort ℕ) : Fate → HttpResponse
  | delivered => toResponse answer
  | requestLost error => error.1
  | responseLost error => error.1

/-- The readings of the clocks of the edge and of the Worker. -/
structure Readings where
  now : ℤ
  sentAt : ℤ
  failedNow : ℤ
  serverNow : Bytes

/-- A step of the edge, or the arrival of a request that was sent. -/
inductive Action where
  | poll (input : TickInput)
  | flush (readings : Readings) (fate : Fate)
  | retry (readings : Readings) (fate : Fate)
  | arrive (serverNow : Bytes) (index : ℕ)

/-- The state of the edge and of the Worker. -/
structure System where
  runtime : TelemetryRuntime
  running : Bool
  database : Database
  posts : List Exchange
  accepted : List Exchange
  taken : List StoredSample

def exchange? : Event → Option Exchange
  | .post _ _ exchange => some exchange
  | _ => none

/-- `handleTelemetry` on a request of the edge. -/
def answer (d1 : D1) (serverNow : Bytes) (request : HttpRequest) (database : Database) :
    Except Abort ℕ × Database :=
  handleTelemetry d1 {} serverNow (toRequest request) database

namespace System

def start (runtime : TelemetryRuntime) (database : Database) : System where
  runtime := runtime
  running := true
  database := database
  posts := []
  accepted := []
  taken := []

def serve (d1 : D1) (serverNow : Bytes) (exchange : Exchange) (s : System) : System :=
  let answered := answer d1 serverNow exchange.request s.database
  { s with
    database := answered.2
    accepted := if answered.1 = .ok 202 then s.accepted ++ [exchange] else s.accepted }

/-- What a flush or a retry of the edge finds outside. -/
def attemptInput (d1 : D1) (readings : Readings) (fate : Fate) (s : System) :
    AttemptInput where
  now := readings.now
  sentAt := readings.sentAt
  client := fun request =>
    fate.response (answer d1 readings.serverNow request s.database).1
  faults := {}
  failedNow := readings.failedNow

def deliver (d1 : D1) (readings : Readings) (fate : Fate) (posted : Option Exchange)
    (s : System) : System :=
  match posted with
  | none => s
  | some exchange =>
      let s := { s with posts := s.posts ++ [exchange] }
      if fate.reaches then s.serve d1 readings.serverNow exchange else s

/-- The end of a flush or a retry. An exception ends the process. -/
def finish (d1 : D1) (readings : Readings) (fate : Fate)
    (result : Except Abort (List Event × TelemetryRuntime)) (s : System) : System :=
  match result with
  | .error _ => { s with running := false }
  | .ok (events, runtime) =>
      { s with runtime := runtime }.deliver d1 readings fate (events.findSome? exchange?)

/-- The samples that a flush takes out of the ring buffer. -/
def batch (now : ℤ) (s : System) : List StoredSample :=
  match s.runtime.buffer with
  | none => []
  | some buffer =>
      if s.runtime.flushDue now then (drain s.runtime.maxBatch buffer).1 else []

theorem batch_of_flushDue {s : System} {now : ℤ} (hdue : s.runtime.flushDue now = true) :
    s.batch now = s.runtime.drained.1 := by
  cases hbuffer : s.runtime.buffer with
  | none => simp [batch, TelemetryRuntime.drained, hbuffer]
  | some buffer => simp [batch, TelemetryRuntime.drained, hbuffer, hdue]

/-- One step, if it is possible. -/
def step (d1 : D1) (s : System) : Action → Option System
  | .poll input =>
      if s.running then
        (s.runtime.pollDue input).toOption.map fun polled => { s with runtime := polled.2 }
      else none
  | .flush readings fate =>
      if s.running then
        some ({ s with taken := s.taken ++ s.batch readings.now }.finish d1 readings fate
          (s.runtime.maybeFlush (s.attemptInput d1 readings fate)))
      else none
  | .retry readings fate =>
      if s.running then
        some (s.finish d1 readings fate
          (s.runtime.maybeRetry false (s.attemptInput d1 readings fate)))
      else none
  | .arrive serverNow index =>
      s.posts[index]?.map fun exchange => s.serve d1 serverNow exchange

/-- A run of the system. -/
abbrev Steps (d1 : D1) : System → List Action → System → Prop :=
  Transition.Run fun s action t => s.step d1 action = some t

def runSteps (d1 : D1) : System → List Action → Option System
  | s, [] => some s
  | s, action :: actions => (s.step d1 action).bind fun t => runSteps d1 t actions

theorem steps_of_runSteps {d1 : D1} :
    ∀ {actions : List Action} {s t : System}, runSteps d1 s actions = some t →
      Steps d1 s actions t
  | [], s, t, h => by
      cases h
      exact .nil
  | action :: actions, s, t, h => by
      obtain ⟨u, hstep, hrest⟩ := Option.bind_eq_some_iff.mp h
      have hfirst : Steps d1 s ([] ++ [action]) u := Transition.Run.nil.snoc hstep
      exact hfirst.append (steps_of_runSteps hrest)

theorem exists_steps (d1 : D1) (s : System) (actions : List Action) (p : System → Bool)
    (h : (runSteps d1 s actions).any p = true) :
    ∃ t, Steps d1 s actions t ∧ p t = true := by
  cases hrun : runSteps d1 s actions with
  | none =>
      rw [hrun] at h
      cases h
  | some t =>
      rw [hrun] at h
      exact ⟨t, steps_of_runSteps hrun, h⟩

variable {d1 : D1} {s t : System} {readings : Readings} {fate : Fate}

/-- What a step can do. -/
inductive Effect (d1 : D1) (s : System) : System → Prop
  | polled {runtime : TelemetryRuntime}
      (hframe : TelemetryRuntime.PollFrame s.runtime runtime) :
      Effect d1 s { s with runtime := runtime }
  | flushed {readings : Readings} {fate : Fate} {events : List Event}
      {runtime : TelemetryRuntime}
      (hflush : s.runtime.maybeFlush (s.attemptInput d1 readings fate) =
        .ok (events, runtime)) :
      Effect d1 s
        ({ s with taken := s.taken ++ s.batch readings.now, runtime := runtime }.deliver d1
          readings fate (events.findSome? exchange?))
  | flushThrew {readings : Readings} {fate : Fate} {e : Abort}
      (hflush : s.runtime.maybeFlush (s.attemptInput d1 readings fate) = .error e) :
      Effect d1 s { s with taken := s.taken ++ s.batch readings.now, running := false }
  | retried {readings : Readings} {fate : Fate} {events : List Event}
      {runtime : TelemetryRuntime}
      (hretry : s.runtime.maybeRetry false (s.attemptInput d1 readings fate) =
        .ok (events, runtime)) :
      Effect d1 s
        ({ s with runtime := runtime }.deliver d1 readings fate (events.findSome? exchange?))
  | retryThrew : Effect d1 s { s with running := false }
  | served {serverNow : Bytes} {exchange : Exchange} (hposted : exchange ∈ s.posts) :
      Effect d1 s (s.serve d1 serverNow exchange)

theorem effect_of_step {action : Action} (h : s.step d1 action = some t) : Effect d1 s t := by
  cases action with
  | poll input =>
      rw [step] at h
      split at h
      · obtain ⟨polled, hpolled, rfl⟩ := Option.map_eq_some_iff.mp h
        cases hpoll : s.runtime.pollDue input with
        | error e =>
            rw [hpoll] at hpolled
            cases hpolled
        | ok r =>
            rw [hpoll] at hpolled
            cases hpolled
            exact .polled (TelemetryRuntime.pollDue_frame hpoll)
      · cases h
  | flush readings fate =>
      rw [step] at h
      split at h
      · cases h
        cases hflush : s.runtime.maybeFlush (s.attemptInput d1 readings fate) with
        | error e => exact .flushThrew hflush
        | ok r => exact .flushed hflush
      · cases h
  | retry readings fate =>
      rw [step] at h
      split at h
      · cases h
        cases hretry : s.runtime.maybeRetry false (s.attemptInput d1 readings fate) with
        | error e => exact .retryThrew
        | ok r => exact .retried hretry
      · cases h
  | arrive serverNow index =>
      obtain ⟨exchange, hposted, rfl⟩ := Option.map_eq_some_iff.mp h
      exact .served (List.mem_of_getElem? hposted)

@[simp] theorem deliver_runtime (posted : Option Exchange) :
    (s.deliver d1 readings fate posted).runtime = s.runtime := by
  cases posted with
  | none => rfl
  | some exchange =>
      rw [deliver]
      split <;> rfl

@[simp] theorem deliver_taken (posted : Option Exchange) :
    (s.deliver d1 readings fate posted).taken = s.taken := by
  cases posted with
  | none => rfl
  | some exchange =>
      rw [deliver]
      split <;> rfl

@[simp] theorem deliver_posts (posted : Option Exchange) :
    (s.deliver d1 readings fate posted).posts = s.posts ++ posted.toList := by
  cases posted with
  | none => exact (List.append_nil _).symm
  | some exchange =>
      rw [deliver]
      split <;> rfl

theorem keys_subset_serve (serverNow : Bytes) (exchange : Exchange) :
    s.database.telemetryPoints.keys ⊆
      (s.serve d1 serverNow exchange).database.telemetryPoints.keys := by
  change _ ⊆ (handleTelemetry d1 {} serverNow (toRequest exchange.request)
    s.database).2.telemetryPoints.keys
  rcases @handleTelemetry_cases d1 {} serverNow s.database (toRequest exchange.request) with
    ⟨-, _, _, _, points, -, -, -, -, hpoints⟩ | ⟨-, hpoints⟩
  · rw [hpoints]
    exact Keyed.keys_subset_insertAll _ _
  · rw [hpoints]
    exact List.Subset.refl _

theorem keys_subset_deliver (posted : Option Exchange) :
    s.database.telemetryPoints.keys ⊆
      (s.deliver d1 readings fate posted).database.telemetryPoints.keys := by
  cases posted with
  | none => exact List.Subset.refl _
  | some exchange =>
      rw [deliver]
      split
      · exact keys_subset_serve readings.serverNow exchange
      · exact List.Subset.refl _

end System

/-- The exchange was built by the uploader of a node. -/
def Sent (node : Bytes) (exchange : Exchange) : Prop :=
  ∃ (u : HttpUploader) (sentAt : ℤ), u.nodeId = node ∧
    u.request sentAt exchange.samples = .ok exchange.request

/-- Serving a request of the edge stores its complete samples and accepts it, or it
changes nothing. -/
theorem System.serve_cases {d1 : D1} {node serverNow : Bytes} {s : System}
    {exchange : Exchange} (hsent : Sent node exchange) :
    ((answer d1 serverNow exchange.request s.database).1 = .ok 202 ∧
        (s.serve d1 serverNow exchange).accepted = s.accepted ++ [exchange] ∧
        (∀ x ∈ exchange.samples, Complete x → (wirePoint node x).NotNull) ∧
        (s.serve d1 serverNow exchange).database.telemetryPoints =
          s.database.telemetryPoints.insertAll
            ((exchange.samples.filter fun x => Complete x).map (wirePoint node))) ∨
      ((answer d1 serverNow exchange.request s.database).1 ≠ .ok 202 ∧
        (s.serve d1 serverNow exchange).accepted = s.accepted ∧
        (s.serve d1 serverNow exchange).database.telemetryPoints =
          s.database.telemetryPoints) := by
  obtain ⟨u, sentAt, rfl, hrequest⟩ := hsent
  rcases @handleTelemetry_request d1 {} serverNow s.database _ _ _ _ hrequest with
    ⟨haccepted, hnotNull, hpoints⟩ | ⟨hrefused, hpoints⟩
  · exact .inl ⟨haccepted, if_pos haccepted, hnotNull, hpoints⟩
  · exact .inr ⟨hrefused, if_neg hrefused, hpoints⟩

theorem System.key_mem_serve {d1 : D1} {node serverNow : Bytes} {s : System}
    {exchange : Exchange} (hsent : Sent node exchange)
    (haccepted : (answer d1 serverNow exchange.request s.database).1 = .ok 202)
    {x : StoredSample} (hx : x ∈ exchange.samples) (hcomplete : Complete x) :
    wireKey node x ∈ (s.serve d1 serverNow exchange).database.telemetryPoints.keys := by
  rcases s.serve_cases hsent with ⟨-, -, -, hpoints⟩ | ⟨hrefused, -⟩
  · rw [hpoints, ← wirePoint_key]
    exact Keyed.key_mem_insertAll _
      (List.mem_map_of_mem (List.mem_filter.mpr ⟨hx, decide_eq_true hcomplete⟩))
  · exact absurd haccepted hrefused

/-- The edge takes a POST for accepted only when the Worker has answered 202. -/
theorem accepted_of_response {d1 : D1} {serverNow : Bytes} {request : HttpRequest}
    {database : Database} {fate : Fate}
    (h : HttpUploader.interpretResponse
      (fate.response (answer d1 serverNow request database).1) = .accepted) :
    fate = .delivered ∧ (answer d1 serverNow request database).1 = .ok 202 := by
  cases fate with
  | requestLost error => cases error.2.symm.trans h
  | responseLost error => cases error.2.symm.trans h
  | delivered =>
      refine ⟨rfl, ?_⟩
      cases hanswer : (answer d1 serverNow request database).1 with
      | error e =>
          rw [hanswer] at h
          cases h
      | ok status =>
          rw [hanswer] at h
          rcases handleTelemetry_status hanswer with rfl | rfl | rfl
          · rfl
          · cases h
          · cases h

/-- The edge takes a POST for rejected only when the Worker has answered 400. -/
theorem rejected_of_response {d1 : D1} {serverNow : Bytes} {request : HttpRequest}
    {database : Database} {fate : Fate}
    (h : HttpUploader.interpretResponse
      (fate.response (answer d1 serverNow request database).1) = .rejected) :
    (answer d1 serverNow request database).1 = .ok 400 := by
  cases fate with
  | requestLost error => cases error.2.symm.trans h
  | responseLost error => cases error.2.symm.trans h
  | delivered =>
      cases hanswer : (answer d1 serverNow request database).1 with
      | error e =>
          rw [Fate.response, hanswer] at h
          cases h
      | ok status =>
          rw [Fate.response, hanswer] at h
          rcases handleTelemetry_status hanswer with rfl | rfl | rfl
          · cases h
          · rfl
          · cases h

theorem findSome?_attemptEvents (route : Route) (now : ℤ) (attempt : Attempt) :
    (attemptEvents route now attempt).findSome? exchange? = attempt.exchange := by
  have hstatements : (attempt.statements.map Event.statement).findSome? exchange? = none :=
    List.findSome?_eq_none_iff.mpr fun e he => by
      obtain ⟨statement, -, rfl⟩ := List.mem_map.mp he
      rfl
  unfold attemptEvents
  cases attempt.exchange with
  | none => exact hstatements
  | some exchange => rfl

end Bossa.Protocol
