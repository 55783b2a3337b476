import Bossa.Runtime.Confinement
import Bossa.Runtime.Retry
import Bossa.Sync.Queue

/-!
# Accepted uploads

The runtime counts the uploads that were accepted and resets its backoff after them. It
takes the answer of `retry_pending` for that, which is the same when the query reads no
row. Rows were counted before, so this happens only when the query fails at once, and then
an upload is counted and the backoff is reset without a POST.
-/

namespace Bossa.Runtime

open Bossa.Core Telemetry Storage Sync

/-- The event is a POST that was answered with 200 or 202. -/
def Event.accepted : Event → Bool
  | .post _ _ exchange =>
      exchange.response.error = [] ∧
        (exchange.response.statusCode = 200 ∨ exchange.response.statusCode = 202)
  | _ => false

theorem Event.accepted_post (route : Route) (now : ℤ) (exchange : Exchange) :
    Event.accepted (.post route now exchange) =
      decide (HttpUploader.interpretResponse exchange.response = .accepted) := by
  rw [Event.accepted, decide_eq_decide]
  exact HttpUploader.interpretResponse_eq_accepted_iff.symm

theorem countP_attemptEvents {route : Route} {now : ℤ} {attempt : Attempt}
    {exchange : Exchange} (hexchange : attempt.exchange = some exchange)
    (hresult : attempt.result = HttpUploader.interpretResponse exchange.response) :
    (attemptEvents route now attempt).countP Event.accepted =
      if attempt.result = .accepted then 1 else 0 := by
  have hstatements : (attempt.statements.map Event.statement).countP Event.accepted = 0 := by
    rw [List.countP_map, List.countP_eq_zero]
    intro statement _
    simp [Event.accepted]
  rw [attemptEvents, List.countP_append, hstatements, hexchange, Nat.add_zero]
  simp only [Option.map_some, Option.toList_some, List.countP_singleton, Event.accepted_post,
    decide_eq_true_eq, hresult]

namespace TelemetryRuntime

variable {s s' : TelemetryRuntime} {events : List Event}

theorem countP_isPoll {events : List Event} (h : ∀ e ∈ events, IsPoll e) :
    events.countP Event.accepted = 0 := by
  rw [List.countP_eq_zero]
  intro e he
  cases h e he <;> simp [Event.accepted]

theorem maybeFlush_count {input : AttemptInput} (h : s.maybeFlush input = .ok (events, s')) :
    s'.acceptedUploadCount = s.acceptedUploadCount + events.countP Event.accepted := by
  rcases maybeFlush_cases h with
    ⟨-, rfl, rfl⟩ | ⟨-, uploader, buffer, attempt, -, -, hne, hupload, rfl, rfl⟩
  · rfl
  · obtain ⟨request, _, hexchange, hresult, -⟩ := HttpUploader.upload_cases hne hupload
    rw [countP_attemptEvents hexchange hresult]
    cases attempt.result <;> rfl

/-- A retry that is due counts its POST when it was accepted. When its query fails before
the first row it counts as well, without a POST. -/
theorem maybeRetry_count {countFault : Bool} {input : AttemptInput}
    (hwired : ∀ u, s.uploader = some u → u.hasStore = s.storeOpen)
    (h : s.maybeRetry countFault input = .ok (events, s')) :
    s'.acceptedUploadCount = s.acceptedUploadCount + events.countP Event.accepted +
      if s.retryDue countFault input.now = true ∧ input.faults.select = some 0 then 1 else 0 := by
  rcases maybeRetry_due_cases h with
    ⟨hwait, hevents, rfl⟩ | ⟨hdue, uploader, attempt, hu, hopen, hpending, hattempt, rfl, rfl⟩
  · rw [if_neg (by simp [hwait])]
    rcases hevents with rfl | rfl <;> rfl
  · rw [List.countP_cons_of_neg (by simp [Event.accepted])]
    rcases HttpUploader.retryPending_cases ((hwired uploader hu).trans hopen) hattempt with
      ⟨hnil, rfl⟩ | ⟨hne, request, _, hexchange, hresult, -⟩
    · have hfault : input.faults.select = some 0 := by
        by_contra hread
        exact peekBatch_ne_nil (pendingCount_ne_zero hpending).2 s.maxBatch_pos hread hnil
      rw [if_pos ⟨hdue, hfault⟩]
      rfl
    · have hread : input.faults.select ≠ some 0 := by
        intro hfault
        exact hne (by simp [LocalStore.peekBatch, hfault])
      rw [if_neg (fun hvain => hread hvain.2), countP_attemptEvents hexchange hresult]
      cases attempt.result <;> rfl

theorem maybeRetry_backoff_of_reads {input : TickInput}
    (hwired : ∀ u, s.uploader = some u → u.hasStore = s.storeOpen)
    (hread : ¬ (s.retryDue input.countFault input.retry.now = true ∧
      input.retry.faults.select = some 0))
    (h : s.maybeRetry input.countFault input.retry = .ok (events, s')) :
    s'.backoff = (attemptsIn input events).foldl backoffRule.next s.backoff := by
  refine (maybeRetry_backoff hwired (fun hmem hfault => ?_) h).1
  rcases maybeRetry_due_cases h with ⟨-, hevents, -⟩ | ⟨hdue, -⟩
  · rcases hevents with rfl | rfl <;> simp at hmem
  · exact hread ⟨hdue, hfault⟩

end TelemetryRuntime

/-- A retry is due whose query fails before it has read a row. -/
def Tick.RetriesInVain (t : Tick) : Prop :=
  t.before.channels.entries ≠ [] ∧ ∃ flushed ∈ (t.before.pollAndFlush t.input).toOption,
    flushed.2.retryDue t.input.countFault t.input.retry.now = true ∧
      t.input.retry.faults.select = some 0

instance : DecidablePred Tick.RetriesInVain := fun _ => inferInstanceAs (Decidable (_ ∧ _))

namespace Tick

open TelemetryRuntime

variable {s s' : TelemetryRuntime} {t : Tick}

theorem accepted_attempt_eq_false (h : ∀ e ∈ t.events, e.accepted = false) :
    ∀ a ∈ t.attempts, a.accepted = false := by
  intro a ha
  obtain ⟨e, he, hattempt⟩ := List.mem_filterMap.mp ha
  cases e with
  | post route now exchange =>
      cases hattempt
      have hanswer := h _ he
      rw [Event.accepted_post] at hanswer
      exact hanswer
  | read | dropped | statement => cases hattempt

/-- A tick counts its accepted POSTs, and a retry in vain. -/
theorem count_eq (hwired : s.Wired) (h : t.Step s s') :
    s'.acceptedUploadCount = s.acceptedUploadCount + t.events.countP Event.accepted +
      if t.RetriesInVain then 1 else 0 := by
  obtain ⟨rfl, h⟩ := h
  rcases tick_stages h with
    ⟨hnil, hevents, rfl⟩ | ⟨hne, firstEvents, flushed, retryEvents, hfirst, hretry, hevents⟩
  · rw [hevents, if_neg (fun hvain => hvain.1 hnil)]
    rfl
  · have hvain : t.RetriesInVain ↔ flushed.retryDue t.input.countFault t.input.retry.now = true ∧
        t.input.retry.faults.select = some 0 := by
      simp [RetriesInVain, hne, hfirst, Except.toOption]
    have hretried := maybeRetry_count ((pollAndFlush_frame hfirst).wired hwired).uploader hretry
    obtain ⟨pollEvents, polled, flushEvents, hpoll, hflush, rfl⟩ :=
      pollAndFlush_eq_ok_iff.mp hfirst
    rw [hevents, List.countP_append, List.countP_append, countP_isPoll (pollDue_isPoll hpoll),
      Nat.zero_add, ← Nat.add_assoc, ← (pollDue_frame hpoll).acceptedUploadCount,
      ← maybeFlush_count hflush, hretried]
    simp only [hvain]

theorem backoff_eq_of_reads (hwired : s.Wired) (hread : ¬ t.RetriesInVain)
    (h : t.Step s s') : s'.backoff = t.attempts.foldl backoffRule.next s.backoff := by
  obtain ⟨rfl, h⟩ := h
  rcases tick_stages h with
    ⟨-, hevents, rfl⟩ | ⟨hne, firstEvents, flushed, retryEvents, hfirst, hretry, hevents⟩
  · rw [attempts, hevents]
    rfl
  · have hretried := maybeRetry_backoff_of_reads ((pollAndFlush_frame hfirst).wired hwired).uploader
      (fun hvain => hread ⟨hne, (firstEvents, flushed), by rw [hfirst]; rfl, hvain⟩) hretry
    rw [attempts, hevents, attemptsIn_append, List.foldl_append, ← pollAndFlush_backoff hfirst,
      hretried]

end Tick

open TelemetryRuntime

theorem Ticks.count_eq {s s' : TelemetryRuntime} {ticks : List Tick} (hwired : s.Wired)
    (hrun : Ticks s ticks s') :
    s'.acceptedUploadCount = s.acceptedUploadCount +
      (eventsOf ticks).countP Event.accepted +
        ticks.countP fun t => decide t.RetriesInVain := by
  induction hrun with
  | nil => rfl
  | @snoc t u ticks tick hinit hstep ih =>
      rw [Tick.count_eq ((frame hinit).wired hwired) hstep, ih, eventsOf_append,
        eventsOf_singleton, List.countP_append, List.countP_append, List.countP_singleton]
      simp only [decide_eq_true_eq]
      omega

theorem TelemetryRuntime.wired_configure (input : ConfigureInput) (config : Config)
    (s : TelemetryRuntime) : (s.configure input config).2.Wired := by
  rcases hresult : s.configure input config with ⟨ok, s'⟩
  cases ok with
  | true => exact configure_wired hresult
  | false =>
      have hhalf := configure_halfConfigured hresult
      refine ⟨?_, fun u hu => ?_⟩
      · rw [hhalf.buffer_eq, hhalf.config_eq]
        rfl
      · rw [hhalf.uploader_eq] at hu
        cases hu

/-- The runtime has counted the accepted POSTs of a run. A tick of the run resets the
backoff after a failure only by such a POST, and without a POST it keeps the backoff. -/
structure RecordsAccepted (ticks : List Tick) (s' : TelemetryRuntime) : Prop where
  count_eq : s'.acceptedUploadCount = (eventsOf ticks).countP Event.accepted
  reset_only : ∀ t ∈ ticks, ∀ u, t.before.tick t.input = .ok (t.events, u) →
    t.before.retryAttempt ≠ 0 → u.retryAttempt = 0 → ∃ e ∈ t.events, e.accepted = true
  idle : ∀ t ∈ ticks, ∀ u, t.before.tick t.input = .ok (t.events, u) →
    (∀ route now exchange, .post route now exchange ∉ t.events) →
    u.backoff = t.before.backoff

/-- The runtime records accepted POSTs only, if and only if no retry is made in vain. -/
theorem recordsAccepted_iff {input : ConfigureInput} {config : Config}
    {s₀ s' : TelemetryRuntime} {ticks : List Tick}
    (hrun : Ticks (s₀.configure input config).2 ticks s') :
    RecordsAccepted ticks s' ↔ ∀ t ∈ ticks, ¬ t.RetriesInVain := by
  have hwired := wired_configure input config s₀
  have hzero : (s₀.configure input config).2.acceptedUploadCount = 0 := by
    obtain ⟨_, _, _, _, _, _, _, heq⟩ := s₀.configure_eq input config
    rw [heq]
    rfl
  have hcount := hrun.count_eq hwired
  rw [hzero, Nat.zero_add] at hcount
  constructor
  · intro hrecords
    have hnone : (ticks.countP fun t => decide t.RetriesInVain) = 0 := by
      have hequal := hrecords.count_eq
      omega
    intro t ht
    simpa using List.countP_eq_zero.mp hnone t ht
  · intro hread
    have hnone : (ticks.countP fun t => decide t.RetriesInVain) = 0 := by
      rw [List.countP_eq_zero]
      simpa using hread
    have hbackoff : ∀ t ∈ ticks, ∀ u, t.before.tick t.input = .ok (t.events, u) →
        u.backoff = t.attempts.foldl backoffRule.next t.before.backoff := fun t ht u htick =>
      Tick.backoff_eq_of_reads ((hrun.mem t ht).1.wired hwired) (hread t ht) ⟨rfl, htick⟩
    refine ⟨by rw [hcount, hnone, Nat.add_zero], fun t ht u htick hfailed hreset => ?_,
      fun t ht u htick hnopost => ?_⟩
    · by_contra hnone
      simp only [not_exists, not_and, Bool.not_eq_true] at hnone
      have hrefused : ∀ a ∈ t.attempts, backoffRule.accepted a = false :=
        Tick.accepted_attempt_eq_false hnone
      have hkept := Backoff.Rule.count_le_foldl_next hrefused t.before.backoff
      rw [← hbackoff t ht u htick] at hkept
      have hcounts : t.before.retryAttempt ≤ u.retryAttempt := hkept
      omega
    · have hattempts : t.attempts = [] := by
        rw [Tick.attempts, attemptsIn, List.filterMap_eq_nil_iff]
        intro e he
        cases e with
        | post route now exchange => exact absurd he (hnopost route now exchange)
        | read | dropped | statement => rfl
      rw [hbackoff t ht u htick, hattempts]
      rfl

/-- A batch that is persisted, and whose retry is accepted. -/
theorem recordsAccepted_iff_two_ticks :
    ∃ ticks s', Ticks (deployed "1" "remote") ticks s' ∧ s'.acceptedUploadCount = 1 ∧
      RecordsAccepted ticks s' := by
  obtain ⟨ticks, s', hrun, hcheck⟩ := exists_ticks (deployed "1" "remote")
    [deploymentTick 1 (some 1) 503 503, deploymentTick 10 none 503 202]
    (fun ticks s' => s'.acceptedUploadCount = 1 ∧ ∀ t ∈ ticks, ¬ t.RetriesInVain)
    (by decide +kernel)
  obtain ⟨hcount, hread⟩ := of_decide_eq_true hcheck
  exact ⟨ticks, s', hrun, hcount, (recordsAccepted_iff hrun).mpr hread⟩

/-- A retry whose query fails is counted as an accepted upload. -/
theorem not_recordsAccepted_query_fails :
    ¬ ∀ (input : ConfigureInput) (config : Config) (s₀ s' : TelemetryRuntime)
      (ticks : List Tick), Ticks (s₀.configure input config).2 ticks s' →
      RecordsAccepted ticks s' := by
  intro hclaim
  let input := deploymentTick 10 none 503 503
  obtain ⟨ticks, s', hrun, hcheck⟩ := exists_ticks (deployed "1" "remote")
    [deploymentTick 1 (some 1) 503 503,
      { input with retry := { input.retry with faults := { select := some 0 } } }]
    (fun ticks s' => s'.acceptedUploadCount = 1 ∧
      (eventsOf ticks).countP Event.accepted = 0)
    (by decide +kernel)
  obtain ⟨hcount, hnone⟩ := of_decide_eq_true hcheck
  have hequal := (hclaim _ _ _ _ _ hrun).count_eq
  rw [hcount, hnone] at hequal
  cases hequal

end Bossa.Runtime
