import Bossa.Runtime.History

/-!
# Steady readings

All outputs of a driver share the state that the policy keeps for the channel. The value
that a sample is compared with is therefore not the last one of its own output, but the
last one that passed, of whatever output. Behind the first read nothing is marked exactly
when all values stay close to that one.
-/

namespace Bossa.Runtime

open Bossa.Core Telemetry Storage Sync
open RuntimeState (far)

/-- A call of `on_sample` does not mark the channel, and leaves its flag and the flag of
all channels as they were. -/
structure Unmarked (id : Bytes) (value : Double) (now : ℤ) (p : UploadPolicy) : Prop where
  unchanged : ∀ state, p.channels.lookup id = some state →
    UploadPolicy.changed state value = false
  pendingOnChange :
    ((p.onSample id value now).channels.lookup id).map RuntimeState.pendingOnChange =
      (p.channels.lookup id).map RuntimeState.pendingOnChange
  anyPendingOnChange : (p.onSample id value now).anyPendingOnChange = p.anyPendingOnChange

/-- Behind the first `k` samples of the channel no sample marks it. -/
def UnmarkedBehind (id : Bytes) (k : ℕ) (events : List Event) (p : UploadPolicy) : Prop :=
  ∀ before channel now sample after, events = before ++ .read channel now sample :: after →
    channel.id = id → k ≤ (readings id before).length →
    Unmarked id sample.value now (policyAfter before p)

/-- In a run of ticks the channel is marked in its first read only, which returned `k`
samples: any later sample leaves the policy unmarked that the events before it in its tick
have led to. -/
def MarksFirstRead (id : Bytes) (k : ℕ) (ticks : List Tick) : Prop :=
  ∀ past t rest, ticks = past ++ t :: rest → ∀ before channel now sample after,
    t.events = before ++ .read channel now sample :: after → channel.id = id →
    k ≤ (readings id (eventsOf past ++ before)).length →
    Unmarked id sample.value now (policyAfter before t.before.policy)

/-- Each of the `k` outputs stays within the threshold of its own first reading. -/
def SteadyOutputs (threshold : Double) (k : ℕ) (values : List Double) : Prop :=
  ∀ n v w, values[n]? = some v → values[n % k]? = some w → far threshold w v = false

variable {id : Bytes} {p : UploadPolicy} {state : RuntimeState}

theorem unmarked_iff {value : Double} {now : ℤ}
    (hlookup : p.channels.lookup id = some state)
    (hremote : state.config.destinationRemote = true) (hmode : state.config.mode = .onChange) :
    Unmarked id value now p ↔
      Deadband.passes (far state.config.onChangeThreshold) state.baseline value = false := by
  rw [← UploadPolicy.changed_eq_passes]
  constructor
  · exact fun h => h.unchanged state hlookup
  · intro hunchanged
    have hsame : p.onSample id value now = p := by
      simp [UploadPolicy.onSample, hlookup, hremote, hmode, hunchanged]
    refine ⟨fun state' hlookup' => ?_, by rw [hsame], by rw [hsame]⟩
    cases hlookup.symm.trans hlookup'
    exact hunchanged

theorem unmarked_policyAfter_iff {before : List Event} {value : Double} {now : ℤ}
    (hlookup : p.channels.lookup id = some state)
    (hremote : state.config.destinationRemote = true) (hmode : state.config.mode = .onChange) :
    Unmarked id value now (policyAfter before p) ↔
      Deadband.passes (far state.config.onChangeThreshold)
        (Deadband.anchor (far state.config.onChangeThreshold) state.baseline
          (readings id before)) value = false := by
  have hafter : (policyAfter before p).channels.lookup id =
      some (stateAfter id before state) := by
    rw [lookup_policyAfter, hlookup, Option.map_some]
  have hconfig := @stateAfter_config id before state
  have hmarked : Unmarked id value now (policyAfter before p) ↔ _ :=
    unmarked_iff hafter (by rw [hconfig, hremote]) (by rw [hconfig, hmode])
  rwa [hconfig, stateAfter_baseline hremote hmode] at hmarked

/-- A reading of the channel comes from a sample that was read. -/
theorem exists_read_of_readings {events : List Event} {front back : List Double}
    {value : Double} (h : readings id events = front ++ value :: back) :
    ∃ before channel now sample after, events = before ++ .read channel now sample :: after ∧
      channel.id = id ∧ sample.value = value ∧ readings id before = front := by
  obtain ⟨before, rest, rfl, hbefore, hrest⟩ := List.filterMap_eq_append_iff.mp h
  obtain ⟨between, e, after, rfl, hnone, hvalue, -⟩ := List.filterMap_eq_cons_iff.mp hrest
  have hfront : readings id (before ++ between) = front := by
    have hbetween : readings id between = [] := List.filterMap_eq_nil_iff.mpr hnone
    rw [readings_append, hbetween, List.append_nil]
    exact hbefore
  cases e with
  | read channel now sample =>
      rw [Event.reading] at hvalue
      split at hvalue
      · next hid =>
          cases hvalue
          exact ⟨before ++ between, channel, now, sample, after, by rw [List.append_assoc], hid,
            rfl, hfront⟩
      · cases hvalue
  | dropped | post | statement => cases hvalue

/-- Behind the first read nothing is marked exactly when the values there are close to the
last one of the first read that passed. -/
theorem unmarkedBehind_iff {k : ℕ} (hk : 1 ≤ k) {events : List Event}
    (hlookup : p.channels.lookup id = some state)
    (hremote : state.config.destinationRemote = true) (hmode : state.config.mode = .onChange)
    (hfresh : state.baseline = none) :
    UnmarkedBehind id k events p ↔
      ∀ w ∈ Deadband.anchor (far state.config.onChangeThreshold) none
          ((readings id events).take k),
        ∀ v ∈ (readings id events).drop k, far state.config.onChangeThreshold w v = false := by
  rw [← Deadband.quiet_drop_iff _ hk]
  constructor
  · intro hmarks front value back heq hlength
    obtain ⟨before, channel, now, sample, after, hevents, hid, rfl, rfl⟩ :=
      exists_read_of_readings heq
    have hunmarked := hmarks before channel now sample after hevents hid hlength
    rwa [unmarked_policyAfter_iff hlookup hremote hmode, hfresh] at hunmarked
  · intro hquiet before channel now sample after hevents hid hlength
    subst hevents
    rw [unmarked_policyAfter_iff hlookup hremote hmode, hfresh]
    refine hquiet _ _ (readings id after) ?_ hlength
    rw [readings_append, readings_cons_read hid]

theorem exists_tick_of_eventsOf {e : Event} {back : List Event} :
    ∀ {ticks : List Tick} {front : List Event}, eventsOf ticks = front ++ e :: back →
      ∃ past t rest before after, ticks = past ++ t :: rest ∧
        t.events = before ++ e :: after ∧ front = eventsOf past ++ before
  | [], front, h => by simp [eventsOf] at h
  | t :: ticks, front, h => by
      have hcons : eventsOf (t :: ticks) = t.events ++ eventsOf ticks := List.flatMap_cons
      rw [hcons] at h
      rcases List.append_eq_append_iff.mp h with ⟨front', rfl, hlater⟩ | ⟨front', hnow, hrest⟩
      · obtain ⟨past, t', rest, before, after, rfl, hevents, rfl⟩ :=
          exists_tick_of_eventsOf hlater
        exact ⟨t :: past, t', rest, before, after, rfl, hevents, by simp [eventsOf]⟩
      · cases front' with
        | nil =>
            have hlater : eventsOf ticks = [] ++ e :: back := hrest.symm
            obtain ⟨past, t', rest, before, after, rfl, hevents, hfront⟩ :=
              exists_tick_of_eventsOf hlater
            refine ⟨t :: past, t', rest, before, after, rfl, hevents, ?_⟩
            rw [List.append_nil] at hnow
            rw [← hnow]
            simpa [eventsOf] using hfront
        | cons e' front' =>
            obtain ⟨rfl, -⟩ := List.cons.inj hrest
            exact ⟨[], t, ticks, front, front', rfl, hnow, rfl⟩

open TelemetryRuntime

theorem configure_baseline {input : ConfigureInput} {config : Config}
    {s₀ s : TelemetryRuntime} (h : s₀.configure input config = (true, s))
    (hlookup : s.policy.channels.lookup id = some state) : state.baseline = none := by
  rw [(configure_tables h).2.2] at hlookup
  rcases lookup_policy_bindChannels hlookup with hold | ⟨c, -, -, now, rfl⟩
  · cases hold
  · rfl

/-- The ticks of a run make the calls that its events stand for. -/
theorem Ticks.marksFirstRead_iff_unmarkedBehind {s s' : TelemetryRuntime}
    {ticks : List Tick} {k : ℕ} (hbound : s.BoundById) (hrun : Ticks s ticks s') :
    MarksFirstRead id k ticks ↔ UnmarkedBehind id k (eventsOf ticks) s.policy := by
  have hpolicy : ∀ past t rest, ticks = past ++ t :: rest → ∀ before,
      policyAfter before t.before.policy =
        policyAfter (eventsOf past ++ before) s.policy := by
    rintro past t rest rfl before
    obtain ⟨u, u', hpast, rfl, -⟩ := hrun.exists_step
    rw [Ticks.policy_eq hbound hpast, policyAfter_append]
  constructor
  · intro hmarks front channel now sample back hevents hid hlength
    obtain ⟨past, t, rest, before, after, hticks, ht, rfl⟩ := exists_tick_of_eventsOf hevents
    rw [← hpolicy past t rest hticks]
    exact hmarks past t rest hticks before channel now sample after ht hid hlength
  · intro hunmarked past t rest hticks before channel now sample after ht hid hlength
    rw [hpolicy past t rest hticks]
    refine hunmarked _ channel now sample (after ++ eventsOf rest) ?_ hid hlength
    rw [hticks]
    simp [eventsOf, ht]

/-- An on-change channel is marked in its first read only, if and only if every later value
of any of its outputs is close to the last value of the first read that passed. -/
theorem marksFirstRead_iff {input : ConfigureInput} {config : Config}
    {s₀ s s' : TelemetryRuntime} {ticks : List Tick} {k : ℕ}
    (hconfigure : s₀.configure input config = (true, s)) (hrun : Ticks s ticks s')
    (hlookup : s.policy.channels.lookup id = some state)
    (hremote : state.config.destinationRemote = true) (hmode : state.config.mode = .onChange)
    (hk : 1 ≤ k) :
    MarksFirstRead id k ticks ↔
      ∀ w ∈ Deadband.anchor (far state.config.onChangeThreshold) none
          ((readings id (eventsOf ticks)).take k),
        ∀ v ∈ (readings id (eventsOf ticks)).drop k,
          far state.config.onChangeThreshold w v = false := by
  rw [hrun.marksFirstRead_iff_unmarkedBehind (configure_boundById hconfigure)]
  exact unmarkedBehind_iff hk hlookup hremote hmode (configure_baseline hconfigure hlookup)

/-- The channel of a deployment that uploads changes by more than one. -/
def onChangeFleet : List FleetChannel := [⟨"t", "remote", "on_change", "60", "1"⟩]

/-- The state that the policy has for it in the beginning. -/
def onChangeState : RuntimeState where
  config := ⟨Bytes.ascii "t", .onChange, .normal, 60, .finite 1, true⟩
  lastFlush := 0

theorem configure_onChangeFleet :
    (TelemetryRuntime.new fun _ => .empty).configure deploymentInput
        (fleetConfig "10" onChangeFleet) =
      (true, fleet "10" onChangeFleet) :=
  configure_fleet _ _ (by decide +kernel)

theorem lookup_onChangeFleet :
    (fleet "10" onChangeFleet).policy.channels.lookup (Bytes.ascii "t") = some onChangeState := by
  decide +kernel

/-- A single output that moves by one half. -/
theorem marksFirstRead_iff_one_output :
    ∃ ticks s', Ticks (fleet "10" onChangeFleet) ticks s' ∧
      readings (Bytes.ascii "t") (eventsOf ticks) = [.finite 20, .finite (41 / 2)] ∧
      MarksFirstRead (Bytes.ascii "t") 1 ticks := by
  obtain ⟨ticks, s', hrun, hcheck⟩ := exists_ticks (fleet "10" onChangeFleet)
    [fleetTick 1 [[fleetSample 20 1]] 202, fleetTick 2 [[fleetSample (41 / 2) 2]] 202]
    (fun ticks _ =>
      readings (Bytes.ascii "t") (eventsOf ticks) = [.finite 20, .finite (41 / 2)])
    (by decide +kernel)
  rw [decide_eq_true_eq] at hcheck
  refine ⟨ticks, s', hrun, hcheck, ?_⟩
  refine (marksFirstRead_iff configure_onChangeFleet hrun lookup_onChangeFleet rfl rfl
    le_rfl).mpr ?_
  rw [hcheck]
  decide +kernel

/-- Two outputs at 20 and 50 that do not move mark the channel in every read. -/
theorem not_marksFirstRead_two_outputs :
    ¬ ∀ (input : ConfigureInput) (config : Config) (s₀ s s' : TelemetryRuntime)
      (ticks : List Tick) (id : Bytes) (state : RuntimeState) (k : ℕ) (T : ℚ),
      s₀.configure input config = (true, s) → Ticks s ticks s' →
      s.policy.channels.lookup id = some state → state.config.destinationRemote = true →
      state.config.mode = .onChange → state.config.onChangeThreshold = .finite T → 0 ≤ T →
      1 ≤ k → (∀ t ∈ ticks, (t.input.reads 0).samples.length = k) →
      SteadyOutputs (.finite T) k (readings id (eventsOf ticks)) →
      MarksFirstRead id k ticks := by
  intro hclaim
  let values : List Double := [.finite 20, .finite 50, .finite 20, .finite 50]
  obtain ⟨ticks, s', hrun, hcheck⟩ := exists_ticks (fleet "10" onChangeFleet)
    [fleetTick 1 [[fleetSample 20 1, fleetSample 50 2]] 202,
      fleetTick 2 [[fleetSample 20 3, fleetSample 50 4]] 202]
    (fun ticks _ => readings (Bytes.ascii "t") (eventsOf ticks) = values ∧
      (∀ t ∈ ticks, (t.input.reads 0).samples.length = 2)) (by decide +kernel)
  obtain ⟨hreadings, hlengths⟩ := of_decide_eq_true hcheck
  have hsteady : SteadyOutputs (.finite 1) 2 values := by
    intro n v w hv hw
    have hn : n < 4 := (List.getElem?_eq_some_iff.mp hv).1
    interval_cases n <;> simp [values] at hv hw <;> subst hv hw <;> decide +kernel
  have hmarks := hclaim _ _ _ _ _ _ _ _ 2 1 configure_onChangeFleet hrun lookup_onChangeFleet
    rfl rfl rfl (by decide +kernel) (by decide) hlengths (hreadings ▸ hsteady)
  rw [Ticks.marksFirstRead_iff_unmarkedBehind (configure_boundById configure_onChangeFleet) hrun,
    unmarkedBehind_iff (by decide) lookup_onChangeFleet rfl rfl rfl, hreadings] at hmarks
  have hnear := hmarks (.finite 50) (by decide +kernel) (.finite 20) (by decide +kernel)
  exact absurd hnear (by decide +kernel)

end Bossa.Runtime
