import Bossa.Runtime.Retry
import Bossa.Runtime.Service
import Bossa.Runtime.Tables
import Bossa.Telemetry.Scheduler.Range

/-!
# When the service wakes

After a tick the time to wake at lies behind the reading the tick started at, so that the
loop of the service does not spin. There are two exceptions. A `configure` that fails
before it has bound a channel leaves the schedule of before, which no tick advances any
more. And when the rows cannot be counted in a tick, a retry that is due is not made.
-/

namespace Bossa.Runtime

open Bossa.Core Telemetry Storage Sync

namespace TelemetryRuntime

/-- The runtime wakes behind a time. -/
def WakesBehind (now : ℤ) (s : TelemetryRuntime) : Prop :=
  ∀ fault wake, s.nextWake fault = some wake → now < wake

theorem wakesBehind_iff {now : ℤ} {s : TelemetryRuntime} :
    s.WakesBehind now ↔ (∀ c ∈ s.scheduler.channels, now < c.nextDeadline) ∧
      (s.storeOpen = true → s.store.rows ≠ [] → 0 < s.retryAttempt → now < s.nextRetryAt) := by
  rw [← Scheduler.lt_nextDeadline_iff]
  constructor
  · intro h
    refine ⟨fun wake hwake => h true wake ?_, fun hopen hrows hattempt => ?_⟩
    · simpa [nextWake, LocalStore.pendingCount] using hwake
    · have hpending : s.store.pendingCount false > 0 := List.length_pos_iff.mpr hrows
      have hwake := h false
      unfold nextWake at hwake
      dsimp only at hwake
      rw [if_pos ⟨hopen, hpending, hattempt⟩] at hwake
      cases hdeadline : s.scheduler.nextDeadline with
      | none =>
          rw [hdeadline] at hwake
          exact hwake _ rfl
      | some deadline =>
          rw [hdeadline] at hwake
          have hlt := hwake _ rfl
          split at hlt <;> omega
  · rintro ⟨hdeadlines, hretry⟩ fault wake hwake
    unfold nextWake at hwake
    dsimp only at hwake
    split at hwake
    · next hpending =>
        have hrows : s.store.rows ≠ [] :=
          (pendingCount_ne_zero (Nat.pos_iff_ne_zero.mp hpending.2.1)).2
        have hlt := hretry hpending.1 hrows hpending.2.2
        split at hwake
        · cases hwake
          exact hlt
        · next deadline hdeadline =>
            cases hwake
            have hdeadline := hdeadlines deadline hdeadline
            split <;> omega
    · exact hdeadlines wake hwake

/-- What the calls of the service keep: the periods are positive, and without an uploader
or a binding no failure is counted. -/
structure Paced (s : TelemetryRuntime) : Prop where
  period_pos : ∀ c ∈ s.scheduler.channels, 0 < c.period
  of_uploader : s.uploader = none → s.retryAttempt = 0
  of_channels : s.channels.entries = [] → s.retryAttempt = 0

theorem paced_new (files : Bytes → PendingUploads) : (TelemetryRuntime.new files).Paced where
  period_pos := by simp [TelemetryRuntime.new]
  of_uploader := fun _ => rfl
  of_channels := fun _ => rfl

theorem configure_scheduler (input : ConfigureInput) (config : Config) (s : TelemetryRuntime) :
    (s.configure input config).2.scheduler = s.scheduler ∨ ∃ schedule,
      (s.configure input config).2.scheduler = .configure schedule input.schedulerNow ∧
        ∀ e ∈ schedule, ∃ channel ∈ config.channels, e.sampleRateHz = channel.sampleRateHz := by
  cases h : s.configure input config with
  | mk ok s' =>
      cases ok with
      | false => exact .inl (configure_halfConfigured h).scheduler_eq
      | true =>
          refine .inr ⟨_, (configure_tables h).1, fun e he => ?_⟩
          obtain ⟨channel, hchannel, rfl⟩ := List.mem_map.mp he
          exact ⟨channel, List.mem_of_mem_filter hchannel, rfl⟩

theorem Paced.configure {s : TelemetryRuntime} (h : s.Paced) (input : ConfigureInput)
    {config : Config}
    (hperiods : ∀ channel ∈ config.channels, 1 ≤ Scheduler.periodFromHz channel.sampleRateHz) :
    (s.configure input config).2.Paced := by
  obtain ⟨_, _, _, _, _, _, _, heq⟩ := configure_eq input config s
  have hreset : (s.configure input config).2.retryAttempt = 0 := by
    rw [heq]
    rfl
  refine ⟨?_, fun _ => hreset, fun _ => hreset⟩
  rcases configure_scheduler input config s with hsame | ⟨schedule, hnew, hrates⟩
  · rw [hsame]
    exact h.period_pos
  · rw [hnew]
    intro c hc
    obtain ⟨e, he, rfl⟩ := List.mem_map.mp hc
    obtain ⟨channel, hchannel, hrate⟩ := hrates e he
    dsimp only
    rw [hrate]
    exact hperiods channel hchannel

theorem maybeFlush_scheduler {input : AttemptInput} {s s' : TelemetryRuntime}
    {events : List Event} (h : s.maybeFlush input = .ok (events, s')) :
    s'.scheduler = s.scheduler := by
  rcases maybeFlush_cases h with
    ⟨-, -, rfl⟩ | ⟨-, uploader, buffer, attempt, -, -, -, -, -, rfl⟩
  · rfl
  · cases attempt.result <;> rfl

theorem maybeRetry_scheduler {countFault : Bool} {input : AttemptInput}
    {s s' : TelemetryRuntime} {events : List Event}
    (h : s.maybeRetry countFault input = .ok (events, s')) : s'.scheduler = s.scheduler := by
  rcases maybeRetry_cases h with ⟨-, rfl⟩ | ⟨uploader, attempt, -, -, -, -, rfl⟩
  · rfl
  · cases attempt.result <;> rfl

/-- Polling and flushing keep what the calls keep and leave all deadlines behind the
reading. -/
theorem Paced.pollAndFlush {input : TickInput} {s s' : TelemetryRuntime}
    {events : List Event} (hs : s.Paced) (hne : s.channels.entries ≠ [])
    (h : s.pollAndFlush input = .ok (events, s')) :
    s'.Paced ∧ ∀ c ∈ s'.scheduler.channels, input.now < c.nextDeadline := by
  obtain ⟨pollEvents, polled, flushEvents, hpoll, hflush, -⟩ := pollAndFlush_eq_ok_iff.mp h
  have hframe := (pollDue_frame hpoll).toFrame.trans (maybeFlush_frame hflush)
  have hdeadlines : ∀ c ∈ s'.scheduler.channels, 0 < c.period ∧ input.now < c.nextDeadline := by
    rw [maybeFlush_scheduler hflush]
    obtain ⟨dispatch, hdispatch, -, rfl⟩ := pollDue_cases hpoll
    exact (Scheduler.DispatchSteps.of_ok hdispatch).2.lt_deadline hs.period_pos
  refine ⟨⟨fun c hc => (hdeadlines c hc).1, fun hnone => ?_, fun hnil => ?_⟩,
    fun c hc => (hdeadlines c hc).2⟩
  · rw [hframe.uploader] at hnone
    rw [maybeFlush, (pollDue_frame hpoll).uploader.trans hnone] at hflush
    cases hflush
    exact (pollDue_frame hpoll).retryAttempt.trans (hs.of_uploader hnone)
  · rw [hframe.channels] at hnil
    exact absurd hnil hne

theorem Paced.maybeRetry {countFault : Bool} {input : AttemptInput}
    {s s' : TelemetryRuntime} {events : List Event} (hs : s.Paced)
    (hne : s.channels.entries ≠ []) (h : s.maybeRetry countFault input = .ok (events, s')) :
    s'.Paced := by
  have hframe := maybeRetry_frame h
  refine ⟨maybeRetry_scheduler h ▸ hs.period_pos, fun hnone => ?_, fun hnil => ?_⟩
  · rw [hframe.uploader] at hnone
    rw [TelemetryRuntime.maybeRetry, hnone] at h
    cases h
    exact hs.of_uploader hnone
  · rw [hframe.channels] at hnil
    exact absurd hnil hne

/-- After a retry the pending rows wait behind a time exactly when they have been counted
or waited in front of it already. -/
theorem maybeRetry_waits_iff {countFault : Bool} {input : AttemptInput}
    {s s' : TelemetryRuntime} {events : List Event} {now : ℤ} (hs : s.Paced)
    (hnow : now ≤ input.now) (hfailed : now ≤ input.failedNow)
    (h : s.maybeRetry countFault input = .ok (events, s')) :
    (s'.storeOpen = true → s'.store.rows ≠ [] → 0 < s'.retryAttempt → now < s'.nextRetryAt) ↔
      ¬ (countFault = true ∧ s.storeOpen = true ∧ s.store.rows ≠ [] ∧ 0 < s.retryAttempt ∧
        s.nextRetryAt ≤ now) := by
  rcases maybeRetry_due_cases h with
    ⟨hwait, -, rfl⟩ | ⟨-, uploader, attempt, -, -, hpending, -, -, rfl⟩
  · constructor
    · rintro hlater ⟨-, hopen, hrows, hattempt, hle⟩
      exact absurd (hlater hopen hrows hattempt) (not_lt.mpr hle)
    · intro hmissed hopen hrows hattempt
      by_contra hle
      rw [not_lt] at hle
      have hcount : countFault = false := by
        by_contra hfault
        exact hmissed ⟨by simpa using hfault, hopen, hrows, hattempt, hle⟩
      have huploader : s'.uploader.isSome = true := by
        by_contra hnone
        rw [hs.of_uploader (by simpa using hnone)] at hattempt
        cases hattempt
      have hdue : s'.retryDue countFault input.now = true := by
        refine retryDue_iff.mpr ⟨⟨⟨huploader, hopen⟩, ?_⟩, .inr (hle.trans hnow)⟩
        simpa [LocalStore.pendingCount, hcount] using hrows
      rw [hwait] at hdue
      cases hdue
  · have hcount := (pendingCount_ne_zero hpending).1
    have hdelay := backoffDelay_pos (s.retryAttempt + 1)
    refine ⟨fun _ hmissed => ?_, fun _ _ _ hattempt => ?_⟩
    · rw [hcount] at hmissed
      cases hmissed.1
    · cases hresult : attempt.result with
      | accepted =>
          rw [hresult] at hattempt
          cases hattempt
      | rejected =>
          change now < input.failedNow + backoffDelay (s.retryAttempt + 1)
          omega
      | transientFailure =>
          change now < input.failedNow + backoffDelay (s.retryAttempt + 1)
          omega

end TelemetryRuntime

/-- The clock readings of a tick, in the order in which they are taken. A reading that is
not taken may have any value in between. -/
def TickInput.readings (input : TickInput) : List ℤ :=
  [input.now, input.flush.now, input.flush.failedNow, input.retry.now, input.retry.failedNow]

namespace Tick

open TelemetryRuntime

/-- The runtime has no binding, and a deadline of its schedule has come. -/
def Stranded (t : Tick) : Prop :=
  t.before.channels.entries = [] ∧
    ∃ c ∈ t.before.scheduler.channels, c.nextDeadline ≤ t.input.now

instance : DecidablePred Stranded := fun _ => inferInstanceAs (Decidable (_ ∧ _))

/-- The pending rows cannot be counted although their retry has fallen due. -/
def MissesRetry (t : Tick) : Prop :=
  t.before.channels.entries ≠ [] ∧
    ∃ flushed ∈ (t.before.pollAndFlush t.input).toOption,
      t.input.countFault = true ∧ flushed.2.storeOpen = true ∧ flushed.2.store.rows ≠ [] ∧
        0 < flushed.2.retryAttempt ∧ flushed.2.nextRetryAt ≤ t.input.now

instance : DecidablePred MissesRetry := fun _ => inferInstanceAs (Decidable (_ ∧ _))

variable {t : Tick} {s s' : TelemetryRuntime}

theorem paced (hs : s.Paced) (h : t.Step s s') : s'.Paced := by
  rcases tick_stages h.2 with
    ⟨-, -, rfl⟩ | ⟨hne, firstEvents, flushed, retryEvents, hfirst, hretry, -⟩
  · exact hs
  · have hflushed := (hs.pollAndFlush hne hfirst).1
    exact hflushed.maybeRetry (by rwa [(pollAndFlush_frame hfirst).channels]) hretry

/-- After a tick the runtime wakes behind the reading of the tick, unless the tick found a
schedule without bindings or missed a retry. -/
theorem wakesBehind_iff (hs : s.Paced) (hclock : t.input.readings.Pairwise (· ≤ ·))
    (h : t.Step s s') :
    s'.WakesBehind t.input.now ↔ ¬ t.Stranded ∧ ¬ t.MissesRetry := by
  obtain ⟨rfl, h⟩ := h
  rw [TelemetryRuntime.wakesBehind_iff]
  rcases tick_stages h with
    ⟨hnil, -, rfl⟩ | ⟨hne, firstEvents, flushed, retryEvents, hfirst, hretry, -⟩
  · have hmisses : ¬ t.MissesRetry := fun hmisses => hmisses.1 hnil
    have hattempt : ¬ 0 < t.before.retryAttempt := by simp [hs.of_channels hnil]
    simp [Stranded, hnil, hmisses, hattempt]
  · obtain ⟨hflushed, hdeadlines⟩ := hs.pollAndFlush hne hfirst
    have hnow := (List.pairwise_cons.mp hclock).1
    have hwaits := maybeRetry_waits_iff hflushed (hnow t.input.retry.now (by simp))
      (hnow t.input.retry.failedNow (by simp)) hretry
    rw [maybeRetry_scheduler hretry, hwaits]
    have hstranded : ¬ t.Stranded := fun hstranded => hne hstranded.1
    have hmisses : t.MissesRetry ↔ t.input.countFault = true ∧ flushed.storeOpen = true ∧
        flushed.store.rows ≠ [] ∧ 0 < flushed.retryAttempt ∧
          flushed.nextRetryAt ≤ t.input.now := by
      simp [MissesRetry, hne, hfirst, Except.toOption]
    rw [hmisses]
    exact ⟨fun hboth => ⟨hstranded, hboth.2⟩, fun hboth => ⟨hdeadlines, hboth.2⟩⟩

end Tick

open TelemetryRuntime

/-- Every channel of every configuration has a period of at least one nanosecond. -/
def Periodic (calls : List Call) : Prop :=
  ∀ input config, .configure input config ∈ calls →
    ∀ channel ∈ config.channels, 1 ≤ Scheduler.periodFromHz channel.sampleRateHz

theorem Calls.paced {files : Bytes → PendingUploads} {calls : List Call}
    {s : TelemetryRuntime} (hcalls : Calls (TelemetryRuntime.new files) calls s)
    (hperiods : Periodic calls) : s.Paced := by
  refine hcalls.invariant (P := Paced) (Q := fun call => ∀ input config,
    call = .configure input config → ∀ channel ∈ config.channels,
      1 ≤ Scheduler.periodFromHz channel.sampleRateHz) ?_ ?_ (paced_new files)
  · intro s call s' hcall hs hstep
    cases call with
    | configure input config =>
        cases hstep
        exact hs.configure input (hcall input config rfl)
    | tick t => exact Tick.paced hs hstep
  · rintro call hmem input config rfl
    exact hperiods input config hmem

/-- After a tick the runtime does not make the service spin: it wakes at no time or behind
the reading of the tick, and a round of the loop with that tick pauses or has let time
pass. -/
structure NeverSpins (t : Tick) (s' : TelemetryRuntime) : Prop where
  wakesBehind : s'.WakesBehind t.input.now
  loop : ∀ (service service' : EdgeService) (fault : Bool) (now : ℤ) (pause : Pause),
    service.runtime = t.before → service.loop t.input fault now = .ok (pause, service') →
      pause ≠ .none ∨ t.input.now < now

theorem EdgeService.loop_pause {service service' : EdgeService} {input : TickInput}
    {fault : Bool} {now : ℤ} {pause : Pause} {s' : TelemetryRuntime} {events : List Event}
    (htick : service.runtime.tick input = .ok (events, s')) (hwakes : s'.WakesBehind input.now)
    (h : service.loop input fault now = .ok (pause, service')) :
    pause ≠ .none ∨ input.now < now := by
  unfold loop at h
  split at h
  · cases h
    exact .inl (by simp)
  · rw [htick] at h
    cases h
    dsimp only
    split
    · exact .inl (by simp)
    · next wake hwake =>
        have hlt := hwakes fault wake hwake
        split
        · exact .inl (by simp)
        · next hle => exact .inr (hlt.trans_le (not_lt.mp hle))

/-- The service loop does not spin: after a tick in any run of calls, successful or not,
with periods of at least one nanosecond the service sleeps or time has passed, exactly when
the tick did not find a schedule without bindings and missed no retry. -/
theorem neverSpins_iff {files : Bytes → PendingUploads} {calls : List Call} {t : Tick}
    {s s' : TelemetryRuntime} (hcalls : Calls (TelemetryRuntime.new files) calls s)
    (hstep : t.Step s s') (hperiods : Periodic calls)
    (hclock : t.input.readings.Pairwise (· ≤ ·)) :
    NeverSpins t s' ↔ ¬ t.Stranded ∧ ¬ t.MissesRetry := by
  rw [← Tick.wakesBehind_iff (hcalls.paced hperiods) hclock hstep]
  obtain ⟨rfl, htick⟩ := hstep
  refine ⟨NeverSpins.wakesBehind, fun hwakes => ⟨hwakes, ?_⟩⟩
  intro service service' fault now pause hservice hloop
  exact EdgeService.loop_pause (hservice ▸ htick) hwakes hloop

/-- The call that configures the deployment, with a fault on opening the store or none. -/
def deploymentCall (fault : Option OpenFault) : Call :=
  .configure { deploymentInput with openFault := fault } (deploymentConfig "1" "remote")

theorem periodic_deployment {calls : List Call}
    (h : ∀ call ∈ calls, ∃ fault, call = deploymentCall fault) : Periodic calls := by
  intro input config hmem
  obtain ⟨fault, hcall⟩ := h _ hmem
  cases hcall
  decide +kernel

theorem calls_deployed :
    Calls (TelemetryRuntime.new fun _ => .empty) ([] ++ [deploymentCall none])
      (deployed "1" "remote") :=
  Transition.Run.nil.snoc rfl

theorem exists_tick (s : TelemetryRuntime) (input : TickInput)
    (p : Tick → TelemetryRuntime → Bool)
    (h : ((s.tick input).toOption.any fun r => p ⟨s, input, r.1⟩ r.2) = true) :
    ∃ t s', t.Step s s' ∧ t.input = input ∧ p t s' = true := by
  obtain ⟨r, htick, hp⟩ := Abort.exists_ok_of_any h
  exact ⟨⟨s, input, r.1⟩, r.2, ⟨rfl, htick⟩, rfl, hp⟩

/-- After a flush that failed the service wakes for the next poll, and later for a
retry. -/
theorem neverSpins_failed_flush :
    ∃ t s', t.Step (deployed "1" "remote") s' ∧ t.input = deploymentTick 1 (some 1) 503 503 ∧
      s'.retryAttempt = 1 ∧ NeverSpins t s' := by
  obtain ⟨t, s', hstep, hinput, hcheck⟩ := exists_tick (deployed "1" "remote")
    (deploymentTick 1 (some 1) 503 503)
    (fun t s' => s'.retryAttempt = 1 ∧ ¬ t.Stranded ∧ ¬ t.MissesRetry) (by decide +kernel)
  obtain ⟨hattempt, hcondition⟩ := of_decide_eq_true hcheck
  refine ⟨t, s', hstep, hinput, hattempt, ?_⟩
  exact (neverSpins_iff calls_deployed hstep (periodic_deployment (by simp))
    (by rw [hinput]; decide)).mpr hcondition

/-- A configuration whose store cannot be opened leaves the deadlines of the one before,
and the service wakes for them again and again. -/
theorem not_neverSpins :
    ¬ ∀ (files : Bytes → PendingUploads) (calls : List Call) (t : Tick)
      (s s' : TelemetryRuntime), Calls (TelemetryRuntime.new files) calls s → t.Step s s' →
      Periodic calls → t.input.readings.Pairwise (· ≤ ·) → NeverSpins t s' := by
  intro hclaim
  let s := ((deployed "1" "remote").configure
    { deploymentInput with openFault := some (.sqlite []) } (deploymentConfig "1" "remote")).2
  have hcalls : Calls (TelemetryRuntime.new fun _ => .empty)
      (([] ++ [deploymentCall none]) ++ [deploymentCall (some (.sqlite []))]) s :=
    calls_deployed.snoc rfl
  have htick : s.tick (deploymentTick 1 none 202 202) = .ok ([], s) :=
    if_pos (by decide +kernel)
  have hspins := hclaim _ _ ⟨s, deploymentTick 1 none 202 202, []⟩ s s hcalls ⟨rfl, htick⟩
    (periodic_deployment (by simp)) (by decide)
  have hwake : s.nextWake false = some 0 := by decide +kernel
  exact absurd (hspins.wakesBehind false 0 hwake) (by decide)

end Bossa.Runtime
