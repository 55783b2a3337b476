import Bossa.Runtime.Backoff
import Bossa.Runtime.Calls

/-!
# Retries and the waits between attempts

In a run whose statements succeed a retry is made in a tick exactly when rows are pending
after its flush and no failure waits. Retries start when the waits are over. A flush does
not look at them, so the attempts are separated when no flush falls due too early.
-/

namespace Bossa.Runtime

open Bossa.Core Telemetry Storage Sync

theorem attemptRecord_mem {input : TickInput} {events : List Event} {route : Route} {now : ℤ}
    {exchange : Exchange} (h : .post route now exchange ∈ events) :
    attemptRecord input route now exchange ∈ attemptsIn input events :=
  List.mem_filterMap.mpr ⟨_, h, rfl⟩

theorem post_mem_attemptEvents {route route' : Route} {now now' : ℤ} {attempt : Attempt}
    {exchange : Exchange} :
    .post route' now' exchange ∈ attemptEvents route now attempt ↔
      (route' = route ∧ now' = now) ∧ attempt.exchange = some exchange := by
  cases hexchange : attempt.exchange <;> simp [attemptEvents, hexchange, eq_comm, and_assoc]

namespace TelemetryRuntime

variable {s s' : TelemetryRuntime} {events : List Event}

theorem not_mem_pollAndFlush {input : TickInput} {now : ℤ} {exchange : Exchange}
    (h : s.pollAndFlush input = .ok (events, s')) : .post .retry now exchange ∉ events := by
  obtain ⟨pollEvents, polled, flushEvents, hpoll, hflush, rfl⟩ := pollAndFlush_eq_ok_iff.mp h
  intro hmem
  have hattempt : attemptRecord input .retry now exchange ∈
      attemptsIn input (pollEvents ++ flushEvents) := attemptRecord_mem hmem
  rw [attemptsIn_append, (pollDue_backoff hpoll).2, List.nil_append] at hattempt
  rcases (maybeFlush_backoff hflush).2 with hnil | ⟨-, flushed, hone⟩
  · rw [hnil] at hattempt
    cases hattempt
  · rw [hone] at hattempt
    have hroute := congrArg AttemptRecord.route (List.mem_singleton.mp hattempt)
    cases hroute

end TelemetryRuntime

section Configured

variable {input : ConfigureInput} {config : Config} {s₀ s s' : TelemetryRuntime}

end Configured

def AttemptRecord.readings (a : AttemptRecord) : List ℤ :=
  if a.failed then [a.start, a.failedNow] else [a.start]

theorem failedNow_sublist_readings :
    ∀ attempts : List AttemptRecord,
      ((attempts.filter AttemptRecord.failed).map AttemptRecord.failedNow).Sublist
        (attempts.flatMap AttemptRecord.readings)
  | [] => .slnil
  | a :: attempts => by
      have ih := failedNow_sublist_readings attempts
      rw [List.flatMap_cons, AttemptRecord.readings]
      cases hfailed : a.failed with
      | true =>
          rw [List.filter_cons_of_pos hfailed, List.map_cons]
          exact .cons _ (ih.cons_cons _)
      | false =>
          rw [List.filter_cons_of_neg (by simp [hfailed])]
          exact .cons _ ih

/-- The backoff separates the attempts of a run under a clock that does not go back: each
starts when the delays after the transient failures before it have passed, provided that
no flush falls due too early. -/
theorem attempts_separated {input : ConfigureInput} {config : Config}
    {s₀ s s' : TelemetryRuntime} {ticks : List Tick}
    (hconfigure : s₀.configure input config = (true, s)) (hrun : Ticks s ticks s')
    (hclock : ((attemptsOf ticks).flatMap AttemptRecord.readings).Pairwise (· ≤ ·))
    (hread : ∀ t ∈ ticks, t.ReadsPending) (hflush : ∀ t ∈ ticks, ¬ t.FlushesEarly) :
    backoffRule.Separated AttemptRecord.transient AttemptRecord.start (attemptsOf ticks) := by
  have hwired := TelemetryRuntime.configure_wired hconfigure
  have hreset := s₀.configure_backoff input config
  rw [hconfigure] at hreset
  have htime := hclock.sublist (failedNow_sublist_readings (attemptsOf ticks))
  have hrespected := Ticks.respected hwired hreset hread hflush hrun
  exact hrespected.separated backoffDelay_mono (fun _ => AttemptRecord.failed_of_transient)
    (List.pairwise_map.mp htime)

/-- A flush that fails and a retry after its delay. -/
theorem attempts_separated_two_ticks :
    ∃ ticks s', Ticks (deployed "1" "remote") ticks s' ∧
      (attemptsOf ticks).map AttemptRecord.route = [.flush, .retry] ∧
      backoffRule.Separated AttemptRecord.transient AttemptRecord.start (attemptsOf ticks) := by
  obtain ⟨ticks, s', hrun, hcheck⟩ := exists_ticks (deployed "1" "remote")
    [deploymentTick 1 (some 1) 503 503, deploymentTick 6 none 503 202]
    (fun ticks _ => (attemptsOf ticks).map AttemptRecord.route = [.flush, .retry] ∧
      ((attemptsOf ticks).flatMap AttemptRecord.readings).Pairwise (· ≤ ·) ∧
      (∀ t ∈ ticks, t.input.retry.faults.select ≠ some 0) ∧ ∀ t ∈ ticks, ¬ t.FlushesEarly)
    (by decide +kernel)
  obtain ⟨hroutes, hclock, hselect, hflush⟩ := of_decide_eq_true hcheck
  exact ⟨ticks, s', hrun, hroutes, attempts_separated configure_one_remote
    hrun hclock (fun t ht _ => hselect t ht) hflush⟩

/-- A flush that falls due one second after another has failed is made at once. -/
theorem not_attempts_separated :
    ¬ ∀ (input : ConfigureInput) (config : Config) (s₀ s s' : TelemetryRuntime)
      (ticks : List Tick), s₀.configure input config = (true, s) → Ticks s ticks s' →
      ((attemptsOf ticks).flatMap AttemptRecord.readings).Pairwise (· ≤ ·) →
      backoffRule.Separated AttemptRecord.transient AttemptRecord.start (attemptsOf ticks) := by
  intro hclaim
  let flushAt : ℤ → AttemptRecord := fun second =>
    ⟨.flush, second * 1000000000, .transientFailure, second * 1000000000⟩
  obtain ⟨ticks, s', hrun, hcheck⟩ := exists_ticks (deployed "1" "remote")
    [deploymentTick 1 (some 1) 503 503, deploymentTick 2 (some 2) 503 503]
    (fun ticks _ => attemptsOf ticks = [flushAt 1, flushAt 2]) (by decide +kernel)
  rw [decide_eq_true_eq] at hcheck
  have hseparated := hclaim _ _ _ _ s' ticks configure_one_remote hrun
    (by rw [hcheck]; decide)
  rw [hcheck] at hseparated
  have helapsed := hseparated [flushAt 1] (flushAt 2) [] rfl 0 (flushAt 1) rfl
  exact absurd helapsed (by decide)

end Bossa.Runtime
