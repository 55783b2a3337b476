import Mathlib.Tactic.IntervalCases
import Bossa.Runtime.Ticks
import Bossa.Transition.Backoff

/-!
# Flushes, retries and the backoff they share

Flushes and retries share one counter of failures and one time before which no retry is
made. In a run both are those of the backoff rule of the runtime after the attempts made
so far. Retries respect that time, flushes do not look at it.
-/

namespace Bossa.Runtime

open Bossa.Core Telemetry Storage Sync

/-- An attempt to post a batch: its route, the clock reading it started at, its result
and the clock reading taken after a failure. -/
structure AttemptRecord where
  route : Route
  start : ℤ
  result : UploadResult
  failedNow : ℤ
  deriving DecidableEq

namespace AttemptRecord

def accepted (a : AttemptRecord) : Bool := a.result = .accepted

def transient (a : AttemptRecord) : Bool := a.result = .transientFailure

/-- A flush fails for the time being, a retry fails unless it is accepted. -/
def failed (a : AttemptRecord) : Bool :=
  match a.route with
  | .flush => a.result = .transientFailure
  | .retry => a.result ≠ .accepted

theorem failed_of_transient {a : AttemptRecord} (h : a.transient = true) :
    a.failed = true := by
  have hresult : a.result = .transientFailure := of_decide_eq_true h
  unfold failed
  split <;> simp [hresult]

end AttemptRecord

def backoffRule : Backoff.Rule AttemptRecord where
  accepted := AttemptRecord.accepted
  failed := AttemptRecord.failed
  failedAt := AttemptRecord.failedNow
  delay := backoffDelay

def TelemetryRuntime.backoff (s : TelemetryRuntime) : Backoff :=
  ⟨s.retryAttempt, s.nextRetryAt⟩

def TickInput.attempt (input : TickInput) : Route → AttemptInput
  | .flush => input.flush
  | .retry => input.retry

def attemptRecord (input : TickInput) (route : Route) (now : ℤ) (exchange : Exchange) :
    AttemptRecord where
  route := route
  start := now
  result := HttpUploader.interpretResponse exchange.response
  failedNow := (input.attempt route).failedNow

def Event.attempt? (input : TickInput) : Event → Option AttemptRecord
  | .post route now exchange => some (attemptRecord input route now exchange)
  | _ => none

def attemptsIn (input : TickInput) (events : List Event) : List AttemptRecord :=
  events.filterMap (Event.attempt? input)

def Tick.attempts (t : Tick) : List AttemptRecord := attemptsIn t.input t.events

def attemptsOf (ticks : List Tick) : List AttemptRecord := ticks.flatMap Tick.attempts

@[simp] theorem attemptsIn_append (input : TickInput) (events events' : List Event) :
    attemptsIn input (events ++ events') =
      attemptsIn input events ++ attemptsIn input events' :=
  List.filterMap_append

@[simp] theorem attemptsOf_append (ticks ticks' : List Tick) :
    attemptsOf (ticks ++ ticks') = attemptsOf ticks ++ attemptsOf ticks' := by
  simp [attemptsOf]

@[simp] theorem attemptsOf_singleton (t : Tick) : attemptsOf [t] = t.attempts := by
  simp [attemptsOf]

theorem backoffDelay_pos (attempt : ℕ) : 0 < backoffDelay attempt := by
  have hindex : min (attempt - 1) 4 ≤ 4 := min_le_right _ _
  unfold backoffDelay
  generalize min (attempt - 1) 4 = i at hindex
  interval_cases i <;> decide

theorem backoffDelay_mono {m n : ℕ} (h : m ≤ n) : backoffDelay m ≤ backoffDelay n := by
  have hle : min (m - 1) 4 ≤ min (n - 1) 4 := by omega
  have hindex : min (n - 1) 4 ≤ 4 := min_le_right _ _
  unfold backoffDelay
  generalize min (m - 1) 4 = i at hle
  generalize min (n - 1) 4 = j at hle hindex
  interval_cases j <;> interval_cases i <;> decide

theorem attemptsIn_attemptEvents (input : TickInput) (route : Route) (now : ℤ)
    (attempt : Attempt) :
    attemptsIn input (attemptEvents route now attempt) =
      (attempt.exchange.map (attemptRecord input route now)).toList := by
  have hstatements : attemptsIn input (attempt.statements.map Event.statement) = [] := by
    simp [attemptsIn, List.filterMap_map, Function.comp_def, Event.attempt?]
  rw [attemptEvents, attemptsIn_append, hstatements, List.append_nil]
  cases attempt.exchange <;> rfl

namespace TelemetryRuntime

/-- The condition of `maybe_retry`. -/
def retryDue (countFault : Bool) (now : ℤ) (s : TelemetryRuntime) : Bool :=
  s.uploader.isSome && s.storeOpen && s.store.pendingCount countFault ≠ 0 &&
    !(0 < s.retryAttempt && now < s.nextRetryAt)

theorem not_waiting_iff {s : TelemetryRuntime} {now : ℤ} :
    (!(0 < s.retryAttempt && now < s.nextRetryAt)) = true ↔ s.backoff.Ready now := by
  simp [backoff, Backoff.Ready, or_iff_not_imp_left, Nat.pos_iff_ne_zero]

theorem retryDue_iff {countFault : Bool} {now : ℤ} {s : TelemetryRuntime} :
    s.retryDue countFault now = true ↔
      ((s.uploader.isSome = true ∧ s.storeOpen = true) ∧ s.store.pendingCount countFault ≠ 0) ∧
        s.backoff.Ready now := by
  rw [retryDue, Bool.and_eq_true, not_waiting_iff, Bool.and_eq_true, Bool.and_eq_true,
    decide_eq_true_eq]

theorem attemptsIn_recordSamples (input : TickInput) (channelId : Bytes)
    (channel : ChannelConfig) (now : ℤ) :
    ∀ (samples : List Sample) (s : TelemetryRuntime),
      attemptsIn input (s.recordSamples channelId channel now samples).1 = []
  | [], _ => rfl
  | sample :: samples, s => by
      have hrecord : attemptsIn input (s.recordSample channelId channel now sample).1 = [] := by
        cases hdropped : s.buffer.bind fun b =>
            b.dropped (.fromSample sample channel.sync.priority) with
        | none => simp [recordSample, hdropped, attemptsIn, Event.attempt?]
        | some d => simp [recordSample, hdropped, attemptsIn, Event.attempt?]
      have hrest := attemptsIn_recordSamples input channelId channel now samples
        (s.recordSample channelId channel now sample).2
      rw [recordSamples]
      dsimp only
      rw [attemptsIn_append, hrecord, hrest, List.append_nil]

theorem attemptsIn_pollChannels (input input' : TickInput) :
    ∀ (polls : List Bytes) (index : ℕ) (s : TelemetryRuntime),
      attemptsIn input (s.pollChannels input' index polls).1 = []
  | [], _, _ => rfl
  | channelId :: polls, index, s => by
      have hpoll : attemptsIn input
          (s.pollChannel channelId (input'.reads index) (input'.pollNow index)).1 = [] := by
        unfold pollChannel
        split
        · rfl
        · exact attemptsIn_recordSamples _ _ _ _ _ _
      have hrest := attemptsIn_pollChannels input input' polls (index + 1)
        (s.pollChannel channelId (input'.reads index) (input'.pollNow index)).2
      rw [pollChannels]
      dsimp only
      rw [attemptsIn_append, hpoll, hrest, List.append_nil]

theorem pollDue_backoff {input : TickInput} {s s' : TelemetryRuntime} {events : List Event}
    (h : s.pollDue input = .ok (events, s')) :
    s'.backoff = s.backoff ∧ attemptsIn input events = [] := by
  have hframe := pollDue_frame h
  obtain ⟨dispatch, -, rfl, -⟩ := pollDue_cases h
  refine ⟨?_, attemptsIn_pollChannels input input _ _ _⟩
  rw [backoff, backoff, hframe.retryAttempt, hframe.nextRetryAt]

/-- A flush makes at most one attempt, and the backoff goes on from it. -/
theorem maybeFlush_backoff {input : TickInput} {s s' : TelemetryRuntime}
    {events : List Event} (h : s.maybeFlush input.flush = .ok (events, s')) :
    s'.backoff = (attemptsIn input events).foldl backoffRule.next s.backoff ∧
      (attemptsIn input events = [] ∨ s.flushDue input.flush.now = true ∧
        ∃ exchange, attemptsIn input events =
          [attemptRecord input .flush input.flush.now exchange]) := by
  rcases maybeFlush_cases h with
    ⟨-, rfl, rfl⟩ | ⟨hdue, uploader, buffer, attempt, -, -, hne, hupload, rfl, rfl⟩
  · exact ⟨rfl, .inl rfl⟩
  · obtain ⟨request, _, hexchange, hresult, -⟩ := HttpUploader.upload_cases hne hupload
    rw [attemptsIn_attemptEvents, hexchange]
    refine ⟨?_, .inr ⟨hdue, _, rfl⟩⟩
    dsimp only [Option.map_some, Option.toList_some, List.foldl_cons, List.foldl_nil]
    rw [hresult]
    cases hanswer : HttpUploader.interpretResponse (input.flush.client request) <;>
      simp [afterFlush, advanceBackoffAfterFailure, resetBackoffAfterSuccess, backoff,
        Backoff.Rule.next, backoffRule, AttemptRecord.accepted, AttemptRecord.failed,
        attemptRecord, hanswer, Backoff.reset, TickInput.attempt]

theorem maybeRetry_due_cases {countFault : Bool} {input : AttemptInput}
    {s s' : TelemetryRuntime} {events : List Event}
    (h : s.maybeRetry countFault input = .ok (events, s')) :
    (s.retryDue countFault input.now = false ∧
        (events = [] ∨ events = [.statement (.count !countFault)]) ∧ s' = s) ∨
      (s.retryDue countFault input.now = true ∧ ∃ uploader attempt,
        s.uploader = some uploader ∧ s.storeOpen = true ∧
        s.store.pendingCount countFault ≠ 0 ∧
        uploader.retryPending input.client input.faults input.sentAt s.maxBatch s.store =
          .ok attempt ∧
        events = .statement (.count !countFault) :: attemptEvents .retry input.now attempt ∧
        s' = { s with store := attempt.store }.afterRetry input attempt.result) := by
  unfold maybeRetry at h
  unfold retryDue
  cases huploader : s.uploader with
  | none =>
      rw [huploader] at h
      cases h
      exact .inl ⟨rfl, .inl rfl, rfl⟩
  | some uploader =>
      rw [huploader] at h
      cases hopen : s.storeOpen with
      | false =>
          simp only [hopen, Bool.not_false, if_true] at h
          cases h
          exact .inl ⟨rfl, .inl rfl, rfl⟩
      | true =>
          simp only [hopen, Bool.not_true, Bool.false_eq_true, if_false] at h
          split at h
          · next hnone =>
              cases h
              exact .inl ⟨by simp [hnone], .inr rfl, rfl⟩
          · next hsome =>
              split at h
              · next hwait =>
                  cases h
                  exact .inl ⟨by simp [hwait.1, hwait.2], .inr rfl, rfl⟩
              · next hdue =>
                  obtain ⟨attempt, hattempt, h⟩ := Abort.bind_eq_ok_iff.mp h
                  cases h
                  refine .inr ⟨?_, uploader, attempt, rfl, rfl, hsome, hattempt, rfl, rfl⟩
                  simpa [hsome, or_iff_not_imp_left, Nat.pos_iff_ne_zero] using hdue

theorem pendingCount_ne_zero {countFault : Bool} {store : LocalStore}
    (h : store.pendingCount countFault ≠ 0) : countFault = false ∧ store.rows ≠ [] := by
  unfold LocalStore.pendingCount at h
  cases countFault with
  | true => exact absurd rfl h
  | false => exact ⟨rfl, fun hnil => h (by simp [hnil])⟩

theorem peekBatch_ne_nil {fault : Option ℕ} {maxCount : ℕ} {store : LocalStore}
    (hrows : store.rows ≠ []) (hcount : 0 < maxCount) (hfault : fault ≠ some 0) :
    store.peekBatch fault maxCount ≠ [] := by
  have hpos := List.length_pos_iff.mpr hrows
  unfold LocalStore.peekBatch
  rw [if_neg (by omega)]
  cases fault with
  | none =>
      apply List.ne_nil_of_length_pos
      rw [List.length_map, List.length_take]
      omega
  | some count =>
      have hcount' : count ≠ 0 := fun heq => hfault (by rw [heq])
      apply List.ne_nil_of_length_pos
      rw [List.length_map, List.length_take, List.length_take]
      omega

/-- A retry that is due makes one attempt with the rows of its query, unless the query
fails before the first row. -/
theorem maybeRetry_attempts {countFault : Bool} {input : AttemptInput}
    {s s' : TelemetryRuntime} {events : List Event}
    (hwired : ∀ u, s.uploader = some u → u.hasStore = s.storeOpen)
    (hread : .statement (.select false) ∈ events → input.faults.select ≠ some 0)
    (h : s.maybeRetry countFault input = .ok (events, s')) :
    (s.retryDue countFault input.now = false ∧
        (events = [] ∨ events = [.statement (.count !countFault)]) ∧ s' = s) ∨
      (s.retryDue countFault input.now = true ∧ ∃ request attempt hrecords,
        attempt.exchange =
          some ⟨(s.store.peekBatch input.faults.select s.maxBatch).map PendingRow.sample,
            request, input.client request, hrecords⟩ ∧
        attempt.result = HttpUploader.interpretResponse (input.client request) ∧
        .select input.faults.select.isNone ∈ attempt.statements ∧
        events = .statement (.count !countFault) :: attemptEvents .retry input.now attempt ∧
        s' = { s with store := attempt.store }.afterRetry input attempt.result) := by
  rcases maybeRetry_due_cases h with
    hwait | ⟨hdue, uploader, attempt, hu, hopen, hpending, hattempt, rfl, rfl⟩
  · exact .inl hwait
  · refine .inr ⟨hdue, ?_⟩
    rcases HttpUploader.retryPending_cases ((hwired uploader hu).trans hopen) hattempt with
      ⟨hnil, rfl⟩ | ⟨-, request, _, hexchange, hresult, hstatements⟩
    · -- the query found no row of a table that has rows
      refine absurd hnil (peekBatch_ne_nil (pendingCount_ne_zero hpending).2 s.maxBatch_pos
        fun hzero => hread ?_ hzero)
      simp [attemptEvents, hzero]
    · refine ⟨request, attempt, _, hexchange, hresult, ?_, rfl, rfl⟩
      rcases hstatements with ⟨-, hstatements, -⟩ | ⟨-, hstatements, -⟩ <;> simp [hstatements]

/-- After a retry the backoff has gone on from its attempt. -/
theorem maybeRetry_backoff {input : TickInput} {s s' : TelemetryRuntime}
    {events : List Event} (hwired : ∀ u, s.uploader = some u → u.hasStore = s.storeOpen)
    (hread : .statement (.select false) ∈ events → input.retry.faults.select ≠ some 0)
    (h : s.maybeRetry input.countFault input.retry = .ok (events, s')) :
    s'.backoff = (attemptsIn input events).foldl backoffRule.next s.backoff ∧
      (attemptsIn input events = [] ∨
        s.retryDue input.countFault input.retry.now = true ∧ ∃ exchange,
          attemptsIn input events = [attemptRecord input .retry input.retry.now exchange]) := by
  rcases maybeRetry_attempts hwired hread h with
    ⟨-, hevents, rfl⟩ | ⟨hdue, request, attempt, _, hexchange, hresult, -, rfl, rfl⟩
  · have hnone : attemptsIn input events = [] := by
      rcases hevents with rfl | rfl <;> rfl
    rw [hnone]
    exact ⟨rfl, .inl rfl⟩
  · have hattempts : attemptsIn input (.statement (.count !input.countFault) ::
          attemptEvents .retry input.retry.now attempt) =
        (attempt.exchange.map (attemptRecord input .retry input.retry.now)).toList :=
      attemptsIn_attemptEvents input .retry input.retry.now attempt
    rw [hattempts, hexchange]
    refine ⟨?_, .inr ⟨hdue, _, rfl⟩⟩
    dsimp only [Option.map_some, Option.toList_some, List.foldl_cons, List.foldl_nil]
    rw [hresult]
    cases hanswer : HttpUploader.interpretResponse (input.retry.client request) <;>
      simp [afterRetry, advanceBackoffAfterFailure, resetBackoffAfterSuccess, backoff,
        Backoff.Rule.next, backoffRule, AttemptRecord.accepted, AttemptRecord.failed,
        attemptRecord, hanswer, Backoff.reset, TickInput.attempt]

theorem pollAndFlush_backoff {input : TickInput} {s s' : TelemetryRuntime}
    {events : List Event} (h : s.pollAndFlush input = .ok (events, s')) :
    s'.backoff = (attemptsIn input events).foldl backoffRule.next s.backoff := by
  obtain ⟨pollEvents, polled, flushEvents, hpoll, hflush, rfl⟩ := pollAndFlush_eq_ok_iff.mp h
  obtain ⟨hpolled, hnone⟩ := pollDue_backoff hpoll
  rw [attemptsIn_append, hnone, List.nil_append, ← hpolled]
  exact (maybeFlush_backoff hflush).1

end TelemetryRuntime

/-- A query of the pending rows that fails has read a row before. -/
def Tick.ReadsPending (t : Tick) : Prop :=
  .statement (.select false) ∈ t.events → t.input.retry.faults.select ≠ some 0

/-- A flush falls due while a failure waits. -/
def Tick.FlushesEarly (t : Tick) : Prop :=
  t.before.channels.entries ≠ [] ∧ ∃ polled ∈ (t.before.pollDue t.input).toOption,
    polled.2.flushDue t.input.flush.now = true ∧ ¬ polled.2.backoff.Ready t.input.flush.now

instance : DecidablePred Tick.FlushesEarly := fun _ => inferInstanceAs (Decidable (_ ∧ _))

namespace Tick

open TelemetryRuntime

variable {s s' : TelemetryRuntime} {t : Tick}

theorem ReadsPending.retry {events retryEvents : List Event} (h : t.ReadsPending)
    (hevents : t.events = events ++ retryEvents) :
    .statement (.select false) ∈ retryEvents → t.input.retry.faults.select ≠ some 0 :=
  fun hmem => h (hevents ▸ List.mem_append_right events hmem)

theorem backoff_eq (hwired : s.Wired) (hread : t.ReadsPending) (h : t.Step s s') :
    s'.backoff = t.attempts.foldl backoffRule.next s.backoff := by
  obtain ⟨rfl, h⟩ := h
  rcases tick_stages h with
    ⟨-, hevents, rfl⟩ | ⟨-, firstEvents, flushed, retryEvents, hfirst, hretry, hevents⟩
  · rw [attempts, hevents]
    rfl
  · have hretried := (maybeRetry_backoff ((pollAndFlush_frame hfirst).wired hwired).uploader
      (hread.retry hevents) hretry).1
    rw [attempts, hevents, attemptsIn_append, List.foldl_append, ← pollAndFlush_backoff hfirst,
      hretried]

/-- When no flush falls due early, the attempts of a tick respect the backoff. -/
theorem respected (hwired : s.Wired) (hread : t.ReadsPending) (hflush : ¬ t.FlushesEarly)
    {past : List AttemptRecord} (hs : s.backoff = backoffRule.after past)
    (hpast : backoffRule.Respected AttemptRecord.start past) (h : t.Step s s') :
    backoffRule.Respected AttemptRecord.start (past ++ t.attempts) := by
  obtain ⟨rfl, h⟩ := h
  rcases tick_cases h with
    ⟨-, hevents, rfl⟩ | ⟨hne, pollEvents, polled, flushEvents, flushed, retryEvents, hpoll,
      hflushed, hretry, hevents⟩
  · rw [attempts, hevents]
    simpa [attemptsIn] using hpast
  · have hframe := (pollDue_frame hpoll).toFrame.trans (maybeFlush_frame hflushed)
    obtain ⟨hpolled, hnone⟩ := pollDue_backoff hpoll
    obtain ⟨hbackoff, hflushes⟩ := maybeFlush_backoff hflushed
    have hretries :=
      (maybeRetry_backoff (hframe.wired hwired).uploader (hread.retry hevents) hretry).2
    rw [hpolled, hs, ← Backoff.Rule.after_append] at hbackoff
    rw [attempts, hevents, attemptsIn_append, attemptsIn_append, hnone, List.nil_append,
      ← List.append_assoc]
    have hfirst : backoffRule.Respected AttemptRecord.start
        (past ++ attemptsIn t.input flushEvents) := by
      rcases hflushes with hnil | ⟨hdue, exchange, hone⟩
      · rwa [hnil, List.append_nil]
      · rw [hone]
        apply hpast.concat
        by_contra hwait
        rw [← hs, ← hpolled] at hwait
        exact hflush ⟨hne, (pollEvents, polled), by rw [hpoll]; rfl, hdue, hwait⟩
    rcases hretries with hnil | ⟨hdue, exchange, hone⟩
    · rwa [hnil, List.append_nil]
    · rw [hone]
      apply hfirst.concat
      rw [← hbackoff]
      exact (retryDue_iff.mp hdue).2

end Tick

namespace Ticks

open TelemetryRuntime

variable {s s' : TelemetryRuntime} {ticks : List Tick}

theorem backoff_eq (hwired : s.Wired) (hreset : s.backoff = .reset)
    (hread : ∀ t ∈ ticks, t.ReadsPending) (hrun : Ticks s ticks s') :
    s'.backoff = backoffRule.after (attemptsOf ticks) := by
  induction hrun with
  | nil => exact hreset
  | snoc hinit hstep ih =>
      rw [List.forall_mem_append, List.forall_mem_singleton] at hread
      rw [Tick.backoff_eq ((frame hinit).wired hwired) hread.2 hstep, ih hread.1,
        attemptsOf_append, attemptsOf_singleton, Backoff.Rule.after_append]

theorem respected (hwired : s.Wired) (hreset : s.backoff = .reset)
    (hread : ∀ t ∈ ticks, t.ReadsPending) (hflush : ∀ t ∈ ticks, ¬ t.FlushesEarly)
    (hrun : Ticks s ticks s') :
    backoffRule.Respected AttemptRecord.start (attemptsOf ticks) := by
  induction hrun with
  | nil => exact .nil
  | snoc hinit hstep ih =>
      rw [List.forall_mem_append, List.forall_mem_singleton] at hread hflush
      rw [attemptsOf_append, attemptsOf_singleton]
      exact Tick.respected ((frame hinit).wired hwired) hread.2 hflush.2
        (backoff_eq hwired hreset hread.1 hinit) (ih hread.1 hflush.1) hstep

end Ticks

theorem TelemetryRuntime.configure_backoff (input : ConfigureInput) (config : Config)
    (s : TelemetryRuntime) : (s.configure input config).2.backoff = .reset := by
  obtain ⟨_, _, _, _, _, _, _, heq⟩ := s.configure_eq input config
  rw [heq]
  rfl

end Bossa.Runtime
