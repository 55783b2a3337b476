import Mathlib.Data.Rat.Floor
import Mathlib.Tactic.FieldSimp
import Mathlib.Algebra.Order.Field.Basic
import Bossa.Telemetry.Scheduler.Slots

/-!
# When `dispatch_due` returns

On signed 64-bit integers the catch-up loop can fail in three ways: a period
truncated to zero never moves the deadline past the reading, a period that does
not fit is out of range before the loop starts, and the slot behind the reading
may lie past the largest time point. `Advances64` excludes the three for one
channel, and a call returns with every polled channel rescheduled behind the
reading exactly when it holds of every channel that is due.
-/

namespace Bossa.Telemetry.Scheduler

open Grid

theorem add64_eq_ok_iff {a b r : ℤ} :
    add64 a b = .ok r ↔ (Fits64 a ∧ Fits64 b ∧ Fits64 (a + b)) ∧ r = a + b := by
  unfold add64
  split
  · next h => simp [h, eq_comm]
  · next h => simp [h]

theorem catchUp_zero_period {add : Addition} (hadd : ∀ a r, add a 0 = .ok r → r = a)
    {now : ℤ} : ∀ (fuel : ℕ) {next : ℤ}, next ≤ now → ∀ r,
      catchUp add 0 now fuel next ≠ .ok r
  | 0, _, _, _ => by simp [catchUp]
  | fuel + 1, next, hle, r => by
      rw [catchUp, if_pos hle]
      intro h
      obtain ⟨next', hnext', h⟩ := Abort.bind_eq_ok_iff.mp h
      rw [hadd next next' hnext'] at h
      exact catchUp_zero_period hadd fuel hle r h

/-- A loop that ends within the 64-bit range computes what the loop on
unbounded integers computes. -/
theorem catchUp_add64_ok {period now : ℤ} :
    ∀ {fuel : ℕ} {next r : ℤ}, Fits64 next →
      catchUp add64 period now fuel next = .ok r →
      Fits64 r ∧ catchUp exactAdd period now fuel next = .ok r
  | 0, _, _, _, h => by simp [catchUp] at h
  | fuel + 1, next, r, hfits, h => by
      by_cases hle : next ≤ now
      · rw [catchUp, if_pos hle] at h ⊢
        obtain ⟨next', hnext', h⟩ := Abort.bind_eq_ok_iff.mp h
        obtain ⟨⟨-, -, hsum⟩, rfl⟩ := add64_eq_ok_iff.mp hnext'
        exact catchUp_add64_ok hsum h
      · rw [catchUp, if_neg hle] at h ⊢
        cases h
        exact ⟨hfits, rfl⟩

theorem catchUp_add64 {period now : ℤ} (hperiod : 0 < period) (hfits : Fits64 period) :
    ∀ (fuel : ℕ) (next : ℤ), Fits64 next → Fits64 (after period now next) →
      (now - next + 1).toNat < fuel →
      catchUp add64 period now fuel next = .ok (after period now next)
  | 0, _, _, _, h => absurd h (Nat.not_lt_zero _)
  | fuel + 1, next, hnext, hafter, h => by
      by_cases hle : next ≤ now
      · have hstep := after_step hperiod hle
        rw [← hstep] at hafter ⊢
        have hsum : Fits64 (next + period) := by
          have hupper := le_after hperiod now (next + period)
          exact ⟨hnext.1.trans (by omega), hupper.trans_lt hafter.2⟩
        rw [catchUp, if_pos hle, add64_eq_ok_iff.mpr ⟨⟨hnext, hfits, hsum⟩, rfl⟩]
        exact catchUp_add64 hperiod hfits fuel (next + period) hsum hafter (by omega)
      · rw [catchUp, if_neg hle, after_of_lt (not_le.mp hle)]
        rfl

theorem lt_of_catchUp {add : Addition} {period now : ℤ} :
    ∀ {fuel : ℕ} {next r : ℤ}, catchUp add period now fuel next = .ok r → now < r
  | 0, _, _, h => by simp [catchUp] at h
  | fuel + 1, next, r, h => by
      by_cases hle : next ≤ now
      · rw [catchUp, if_pos hle] at h
        obtain ⟨next', -, h⟩ := Abort.bind_eq_ok_iff.mp h
        exact lt_of_catchUp h
      · rw [catchUp, if_neg hle] at h
        cases h
        exact not_le.mp hle

theorem lt_of_advance {channel channel' : ChannelState} {fuel : ℕ} {now : ℤ}
    (hperiod : 0 < channel.period) (h : advance add64 fuel now channel = .ok channel') :
    channel'.period = channel.period ∧ now < channel'.nextDeadline := by
  obtain ⟨first, -, h⟩ := Abort.bind_eq_ok_iff.mp h
  obtain ⟨next, hnext, h⟩ := Abort.bind_eq_ok_iff.mp h
  dsimp only at h
  split at h
  · obtain ⟨deadline, hdeadline, h⟩ := Abort.bind_eq_ok_iff.mp h
    cases h
    refine ⟨rfl, ?_⟩
    rw [(add64_eq_ok_iff.mp hdeadline).2]
    exact lt_add_of_pos_right now hperiod
  · cases h
    exact ⟨rfl, lt_of_catchUp hnext⟩

theorem DispatchSteps.lt_deadline {fuel : ℕ} {now : ℤ} {channels channels' : List ChannelState}
    {polls : List Bytes} (h : DispatchSteps add64 fuel now channels polls channels')
    (hperiod : ∀ c ∈ channels, 0 < c.period) :
    ∀ c ∈ channels', 0 < c.period ∧ now < c.nextDeadline := by
  induction h with
  | nil => simp
  | skip hdue _ ih =>
      rw [List.forall_mem_cons] at hperiod ⊢
      exact ⟨⟨hperiod.1, hdue⟩, ih hperiod.2⟩
  | poll _ hadvance _ ih =>
      rw [List.forall_mem_cons] at hperiod ⊢
      obtain ⟨hsame, hlt⟩ := lt_of_advance hperiod.1 hadvance
      exact ⟨⟨hsame ▸ hperiod.1, hlt⟩, ih hperiod.2⟩

theorem lt_nextDeadline_iff {s : Scheduler} {now : ℤ} :
    (∀ wake, s.nextDeadline = some wake → now < wake) ↔
      ∀ c ∈ s.channels, now < c.nextDeadline := by
  constructor
  · intro h c hc
    have hmem := List.mem_map_of_mem (f := ChannelState.nextDeadline) hc
    obtain ⟨wake, hwake⟩ := Option.isSome_iff_exists.mp
      (List.isSome_min?_of_ne_nil (List.ne_nil_of_mem hmem))
    exact (h wake hwake).trans_le ((List.min?_eq_some_iff.mp hwake).2 _ hmem)
  · intro h wake hwake
    obtain ⟨c, hc, rfl⟩ := List.mem_map.mp (List.min?_eq_some_iff.mp hwake).1
    exact h c hc

theorem one_le_periodFromHz_iff {rate : ℚ} (hrate : 0 < rate) :
    1 ≤ periodFromHz (.finite rate) ↔ rate ≤ 1000000000 := by
  rw [periodFromHz, if_pos hrate, Int.le_floor, one_div_mul_eq_div, Int.cast_one,
    le_div_iff₀ hrate, one_mul]

theorem periodFromHz_nonneg {rate : ℚ} (hrate : 0 < rate) :
    0 ≤ periodFromHz (.finite rate) := by
  rw [periodFromHz, if_pos hrate]
  exact Int.floor_nonneg.mpr (by positivity)

/-- The condition under which a due channel is advanced past the reading within
the 64-bit range: its rate is at most one gigahertz, its period fits, and so
does its first slot behind the reading. -/
structure Advances64 (now : ℤ) (channel : ChannelState) : Prop where
  rate_le : ∃ rate : ℚ, channel.entry.sampleRateHz = .finite rate ∧ rate ≤ 1000000000
  period_fits : Fits64 channel.period
  slot_fits : Fits64 (after channel.period now channel.nextDeadline)

/-- What configuration and earlier calls ensure about a channel. -/
structure Configured64 (entries : List ScheduleEntry) (channel : ChannelState) :
    Prop where
  entry_mem : channel.entry ∈ entries
  period_eq : channel.period = periodFromHz channel.entry.sampleRateHz
  deadline_fits : Fits64 channel.nextDeadline

variable {entries : List ScheduleEntry}

/-- Every rate is a positive number, as `load_config` requires. -/
def PositiveRates (entries : List ScheduleEntry) : Prop :=
  ∀ e ∈ entries, ∃ rate : ℚ, 0 < rate ∧ e.sampleRateHz = .finite rate

theorem period_pos_iff (hrates : PositiveRates entries) {channel : ChannelState}
    (h : Configured64 entries channel) :
    0 < channel.period ↔
      ∃ rate : ℚ, channel.entry.sampleRateHz = .finite rate ∧ rate ≤ 1000000000 := by
  obtain ⟨rate, hpos, hrate⟩ := hrates _ h.entry_mem
  rw [h.period_eq, hrate]
  constructor
  · intro hperiod
    exact ⟨rate, rfl, (one_le_periodFromHz_iff hpos).mp hperiod⟩
  · rintro ⟨rate', heq, hle⟩
    cases heq
    exact (one_le_periodFromHz_iff hpos).mpr hle

/-- An advance that succeeds moves the deadline to the first slot behind the
reading, and needs the condition. -/
theorem advance_add64_ok (hrates : PositiveRates entries) {channel channel' : ChannelState}
    {fuel : ℕ} {now : ℤ} (h : Configured64 entries channel)
    (hdue : channel.nextDeadline ≤ now)
    (hadvance : advance add64 fuel now channel = .ok channel') :
    Advances64 now channel ∧ channel' =
      { channel with nextDeadline := after channel.period now channel.nextDeadline } := by
  obtain ⟨first, hfirst, hadvance⟩ := Abort.bind_eq_ok_iff.mp hadvance
  obtain ⟨next, hnext, hadvance⟩ := Abort.bind_eq_ok_iff.mp hadvance
  obtain ⟨⟨-, hperiodFits, hfirstFits⟩, rfl⟩ := add64_eq_ok_iff.mp hfirst
  have hnonneg : 0 ≤ channel.period := by
    obtain ⟨rate, hpos, hrate⟩ := hrates _ h.entry_mem
    rw [h.period_eq, hrate]
    exact periodFromHz_nonneg hpos
  have hperiod : 0 < channel.period := by
    refine lt_of_le_of_ne hnonneg fun hzero => ?_
    rw [← hzero, add_zero] at hnext
    refine catchUp_zero_period (fun a r hr => ?_) fuel hdue next hnext
    rw [(add64_eq_ok_iff.mp hr).2, add_zero]
  obtain ⟨hnextFits, hexact⟩ := catchUp_add64_ok hfirstFits hnext
  have hafter := eq_after_of_catchUp hperiod hexact
  rw [after_step hperiod hdue] at hafter
  subst hafter
  have hlt := lt_after hperiod now channel.nextDeadline
  rw [if_neg (by omega)] at hadvance
  exact ⟨⟨(period_pos_iff hrates h).mp hperiod, hperiodFits, hnextFits⟩,
    (Abort.pure_eq_ok_iff.mp hadvance).symm⟩

theorem advance_add64_exists (hrates : PositiveRates entries) {channel : ChannelState}
    {fuel : ℕ} {now : ℤ} (h : Configured64 entries channel)
    (hdue : channel.nextDeadline ≤ now) (hadvances : Advances64 now channel)
    (hfuel : (now - channel.nextDeadline + 1).toNat < fuel) :
    ∃ channel', advance add64 fuel now channel = .ok channel' := by
  have hperiod := (period_pos_iff hrates h).mpr hadvances.rate_le
  have hslot := hadvances.slot_fits
  have hstep := after_step hperiod hdue
  rw [← hstep] at hslot
  have hfirst : Fits64 (channel.nextDeadline + channel.period) := by
    have hupper :=
      le_after hperiod now (channel.nextDeadline + channel.period)
    exact ⟨h.deadline_fits.1.trans (by omega), hupper.trans_lt hslot.2⟩
  have hnext := catchUp_add64 hperiod hadvances.period_fits fuel _ hfirst hslot (by omega)
  have hlt := lt_after hperiod now channel.nextDeadline
  refine ⟨{ channel with
    nextDeadline := after channel.period now channel.nextDeadline },
    Abort.bind_eq_ok_iff.mpr ⟨_, add64_eq_ok_iff.mpr
    ⟨⟨h.deadline_fits, hadvances.period_fits, hfirst⟩, rfl⟩,
    Abort.bind_eq_ok_iff.mpr ⟨_, hnext, ?_⟩⟩⟩
  rw [hstep, if_neg (by omega)]
  rfl

/-- A call that returns: every channel that was due satisfied the condition and
is rescheduled behind the reading. -/
theorem dispatchSteps_add64 (hrates : PositiveRates entries) {fuel : ℕ} {now : ℤ}
    {channels channels' : List ChannelState} {polls : List Bytes}
    (hsteps : DispatchSteps add64 fuel now channels polls channels')
    (h : ∀ c ∈ channels, Configured64 entries c) :
    (∀ c ∈ channels, c.nextDeadline ≤ now → Advances64 now c) ∧
      List.Forall₂ (fun c c' => c.nextDeadline ≤ now → now < c'.nextDeadline)
        channels channels' ∧
      ∀ c ∈ channels', Configured64 entries c := by
  induction hsteps with
  | nil => exact ⟨by simp, .nil, by simp⟩
  | skip hdue _ ih =>
      obtain ⟨hall, hlater, hnext⟩ := ih fun c hc => h c (List.mem_cons_of_mem _ hc)
      refine ⟨?_, .cons (fun hle => absurd hle (not_le.mpr hdue)) hlater, ?_⟩
      · exact List.forall_mem_cons.mpr ⟨fun hle => absurd hle (not_le.mpr hdue), hall⟩
      · exact List.forall_mem_cons.mpr ⟨h _ List.mem_cons_self, hnext⟩
  | poll hdue hadvance _ ih =>
      obtain ⟨hall, hlater, hnext⟩ := ih fun c hc => h c (List.mem_cons_of_mem _ hc)
      have hhead := h _ List.mem_cons_self
      obtain ⟨hadvances, rfl⟩ := advance_add64_ok hrates hhead hdue hadvance
      have hperiod := (period_pos_iff hrates hhead).mpr hadvances.rate_le
      refine ⟨List.forall_mem_cons.mpr ⟨fun _ => hadvances, hall⟩,
        .cons (fun _ => lt_after hperiod _ _) hlater, List.forall_mem_cons.mpr ⟨?_, hnext⟩⟩
      exact ⟨hhead.entry_mem, hhead.period_eq, hadvances.slot_fits⟩

theorem dispatchSteps_add64_exists (hrates : PositiveRates entries) {fuel : ℕ} {now : ℤ} :
    ∀ {channels : List ChannelState}, (∀ c ∈ channels, Configured64 entries c) →
      (∀ c ∈ channels, c.nextDeadline ≤ now → Advances64 now c) →
      (∀ c ∈ channels, (now - c.nextDeadline + 1).toNat < fuel) →
      ∃ polls channels', DispatchSteps add64 fuel now channels polls channels'
  | [], _, _, _ => ⟨[], [], .nil⟩
  | channel :: channels, h, hall, hfuel => by
      rw [List.forall_mem_cons] at h hall hfuel
      obtain ⟨polls, channels', hrest⟩ :=
        dispatchSteps_add64_exists hrates h.2 hall.2 hfuel.2
      by_cases hdue : now < channel.nextDeadline
      · exact ⟨_, _, .skip hdue hrest⟩
      · obtain ⟨channel', hadvance⟩ := advance_add64_exists hrates h.1 (not_lt.mp hdue)
          (hall.1 (not_lt.mp hdue)) hfuel.1
        exact ⟨_, _, .poll (not_lt.mp hdue) hadvance hrest⟩

/-- The states of a scheduler that was configured and called within the 64-bit
range. -/
inductive Reachable64 (entries : List ScheduleEntry) : Scheduler → Prop
  | configure {t0 : ℤ} (ht0 : Fits64 t0) : Reachable64 entries (configure entries t0)
  | dispatch {s now d} (hs : Reachable64 entries s) (hnow : Fits64 now)
      (hreturns : Returns add64 s now d) : Reachable64 entries d.scheduler

theorem Reachable64.configured (hrates : PositiveRates entries) {s : Scheduler}
    (hs : Reachable64 entries s) : ∀ c ∈ s.channels, Configured64 entries c := by
  induction hs with
  | configure ht0 =>
      simp only [Scheduler.configure, List.mem_map]
      rintro c ⟨e, he, rfl⟩
      exact ⟨he, rfl, ht0⟩
  | dispatch _ _ hreturns ih =>
      obtain ⟨-, fuel, hsteps⟩ := returns_iff.mp hreturns
      exact (dispatchSteps_add64 hrates hsteps ih).2.2

/-- In every reachable state, a call of `dispatch_due` returns within the 64-bit
range with every polled channel rescheduled behind the reading, if and only if
every channel that is due has a rate of at most one gigahertz, a period that
fits and a first slot behind the reading that fits. -/
theorem returns_add64_iff (entries : List ScheduleEntry) (hrates : PositiveRates entries)
    (s : Scheduler) (hs : Reachable64 entries s) (now : ℤ) :
    (∃ d, Returns add64 s now d ∧
        List.Forall₂ (fun c c' => c.nextDeadline ≤ now → now < c'.nextDeadline)
          s.channels d.scheduler.channels) ↔
      ∀ c ∈ s.channels, c.nextDeadline ≤ now → Advances64 now c := by
  have hconfigured := hs.configured hrates
  constructor
  · rintro ⟨d, hreturns, -⟩
    obtain ⟨-, fuel, hsteps⟩ := returns_iff.mp hreturns
    exact (dispatchSteps_add64 hrates hsteps hconfigured).1
  · intro hall
    obtain ⟨fuel, hfuel⟩ := exists_fuel now s.channels
    obtain ⟨polls, channels', hsteps⟩ :=
      dispatchSteps_add64_exists hrates hconfigured hall hfuel
    refine ⟨⟨polls.length, polls, ⟨channels'⟩⟩, returns_iff.mpr ⟨rfl, fuel, hsteps⟩, ?_⟩
    exact (dispatchSteps_add64 hrates hsteps hconfigured).2.1

/-- A channel that is due when it is configured. -/
theorem returns_add64_iff_one_hertz :
    (∃ d, Returns add64 (configure [⟨Bytes.ascii "slow", .finite 1⟩] 0) 0 d ∧
        List.Forall₂ (fun c c' => c.nextDeadline ≤ 0 → 0 < c'.nextDeadline)
          (configure [⟨Bytes.ascii "slow", .finite 1⟩] 0).channels
          d.scheduler.channels) ↔
      ∀ c ∈ (configure [⟨Bytes.ascii "slow", .finite 1⟩] 0).channels,
        c.nextDeadline ≤ 0 → Advances64 0 c :=
  returns_add64_iff _ (by
    intro e he
    exact ⟨1, one_pos, by rw [List.mem_singleton.mp he]⟩) _
    (.configure (by decide)) 0

/-- A channel of two gigahertz has a period of zero, and the first call after
its configuration does not return. -/
theorem not_returns_two_gigahertz :
    ¬ ∃ d, Returns add64
      (configure [⟨Bytes.ascii "fast", .finite 2000000000⟩] 0) 0 d := by
  rintro ⟨d, hreturns⟩
  have hrates : PositiveRates [⟨Bytes.ascii "fast", .finite 2000000000⟩] := by
    intro e he
    exact ⟨2000000000, by decide +kernel, by rw [List.mem_singleton.mp he]⟩
  have hconfigured := Reachable64.configured hrates
    (.configure (show Fits64 0 by decide))
  obtain ⟨-, fuel, hsteps⟩ := returns_iff.mp hreturns
  obtain ⟨rate, hrate, hle⟩ := ((dispatchSteps_add64 hrates hsteps hconfigured).1 _
    List.mem_cons_self le_rfl).rate_le
  cases hrate
  exact absurd hle (by decide +kernel)

end Bossa.Telemetry.Scheduler
