import Mathlib.Data.List.Forall2
import Mathlib.Data.List.Induction
import Bossa.Data.Grid
import Bossa.Telemetry.Scheduler.Basic

/-!
# The scheduler polls on a grid without drift

A channel configured at `t0` with period `P` has the slots `t0 + k * P`. On
unbounded integers and with periods of at least one nanosecond, every call of
`dispatch_due` returns, polls the channels with a slot since the previous call,
and leaves each `next_deadline` at the least slot behind its reading.

The invariant is `OnGrid`: the deadline of a channel is `t0` before the first
call and the least slot behind the latest reading after it.
-/

namespace Bossa.Telemetry.Scheduler

open Grid

theorem catchUp_exactAdd {period : ℤ} (hperiod : 0 < period) (now : ℤ) :
    ∀ (fuel : ℕ) (next : ℤ), (now - next + 1).toNat < fuel →
      catchUp exactAdd period now fuel next = .ok (after period now next)
  | 0, _, h => absurd h (Nat.not_lt_zero _)
  | fuel + 1, next, h => by
      by_cases hle : next ≤ now
      · rw [catchUp, if_pos hle, ← after_step hperiod hle]
        exact catchUp_exactAdd hperiod now fuel (next + period) (by omega)
      · rw [catchUp, if_neg hle, after_of_lt (not_le.mp hle)]
        rfl

theorem eq_after_of_catchUp {period now : ℤ} (hperiod : 0 < period) :
    ∀ {fuel : ℕ} {next r : ℤ}, catchUp exactAdd period now fuel next = .ok r →
      r = after period now next
  | 0, _, _, h => by simp [catchUp] at h
  | fuel + 1, next, r, h => by
      by_cases hle : next ≤ now
      · rw [catchUp, if_pos hle] at h
        rw [← after_step hperiod hle]
        exact eq_after_of_catchUp hperiod h
      · rw [catchUp, if_neg hle] at h
        rw [after_of_lt (not_le.mp hle)]
        exact (Abort.pure_eq_ok_iff.mp h).symm

theorem advance_eq {now : ℤ} {channel channel' : ChannelState} {fuel : ℕ}
    (hperiod : 0 < channel.period) (hdue : channel.nextDeadline ≤ now)
    (h : advance exactAdd fuel now channel = .ok channel') :
    channel' =
      { channel with nextDeadline := after channel.period now channel.nextDeadline } := by
  obtain ⟨first, hfirst, h⟩ := Abort.bind_eq_ok_iff.mp h
  obtain ⟨next, hnext, h⟩ := Abort.bind_eq_ok_iff.mp h
  cases hfirst
  have hafter := eq_after_of_catchUp hperiod hnext
  rw [after_step hperiod hdue] at hafter
  subst hafter
  have hlt := lt_after hperiod now channel.nextDeadline
  rw [if_neg (by omega)] at h
  exact (Abort.pure_eq_ok_iff.mp h).symm

theorem advance_exists {now : ℤ} {channel : ChannelState} {fuel : ℕ}
    (hperiod : 0 < channel.period) (hdue : channel.nextDeadline ≤ now)
    (hfuel : (now - channel.nextDeadline + 1).toNat < fuel) :
    ∃ channel', advance exactAdd fuel now channel = .ok channel' := by
  have hnext := catchUp_exactAdd hperiod now fuel
    (channel.nextDeadline + channel.period) (by omega)
  have hlt := lt_after hperiod now channel.nextDeadline
  rw [after_step hperiod hdue] at hnext
  refine ⟨{ channel with
    nextDeadline := after channel.period now channel.nextDeadline }, ?_⟩
  refine Abort.bind_eq_ok_iff.mpr ⟨_, rfl, Abort.bind_eq_ok_iff.mpr ⟨_, hnext, ?_⟩⟩
  rw [if_neg (by omega)]
  rfl

theorem exists_fuel (now : ℤ) (channels : List ChannelState) :
    ∃ fuel : ℕ, ∀ c ∈ channels, (now - c.nextDeadline + 1).toNat < fuel := by
  induction channels with
  | nil => exact ⟨0, by simp⟩
  | cons channel channels ih =>
      obtain ⟨fuel, hfuel⟩ := ih
      refine ⟨max fuel ((now - channel.nextDeadline + 1).toNat + 1), ?_⟩
      intro c hc
      rcases List.mem_cons.mp hc with rfl | hc
      · omega
      · exact (hfuel c hc).trans_le (le_max_left _ _)

theorem dispatchSteps_exists {now : ℤ} {fuel : ℕ} :
    ∀ {channels : List ChannelState}, (∀ c ∈ channels, 0 < c.period) →
      (∀ c ∈ channels, (now - c.nextDeadline + 1).toNat < fuel) →
      ∃ polls channels', DispatchSteps exactAdd fuel now channels polls channels'
  | [], _, _ => ⟨[], [], .nil⟩
  | channel :: channels, hperiod, hfuel => by
      obtain ⟨polls, channels', hrest⟩ := dispatchSteps_exists
        (fun c hc => hperiod c (List.mem_cons_of_mem _ hc))
        (fun c hc => hfuel c (List.mem_cons_of_mem _ hc))
      by_cases hdue : now < channel.nextDeadline
      · exact ⟨_, _, .skip hdue hrest⟩
      · obtain ⟨channel', hadvance⟩ := advance_exists
          (hperiod channel List.mem_cons_self) (not_lt.mp hdue)
          (hfuel channel List.mem_cons_self)
        exact ⟨_, _, .poll (not_lt.mp hdue) hadvance hrest⟩

theorem returns_exists {s : Scheduler} (now : ℤ) (hperiod : ∀ c ∈ s.channels, 0 < c.period) :
    ∃ d, Returns exactAdd s now d := by
  obtain ⟨fuel, hfuel⟩ := exists_fuel now s.channels
  obtain ⟨polls, channels', hsteps⟩ := dispatchSteps_exists hperiod hfuel
  exact ⟨⟨polls.length, polls, ⟨channels'⟩⟩, returns_iff.mpr ⟨rfl, fuel, hsteps⟩⟩

theorem polls_ne_nil_iff {add : Addition} {fuel : ℕ} {now : ℤ}
    {channels channels' : List ChannelState} {polls : List Bytes}
    (h : DispatchSteps add fuel now channels polls channels') :
    polls ≠ [] ↔ ∃ c ∈ channels, c.nextDeadline ≤ now := by
  induction h with
  | nil => simp
  | skip hdue _ ih =>
      rw [ih]
      simp [not_le.mpr hdue]
  | poll hdue _ _ ih => simp [hdue]

theorem nextDeadline_eq_some_iff (s : Scheduler) (t : ℤ) :
    s.nextDeadline = some t ↔
      (∃ c ∈ s.channels, c.nextDeadline = t) ∧ ∀ c ∈ s.channels, t ≤ c.nextDeadline := by
  rw [nextDeadline, List.min?_eq_some_iff]
  simp only [List.mem_map, forall_exists_index, and_imp, forall_apply_eq_imp_iff₂]

theorem nextDeadline_eq_none_iff (s : Scheduler) :
    s.nextDeadline = none ↔ s.channels = [] := by
  rw [nextDeadline, List.min?_eq_none_iff, List.map_eq_nil_iff]

theorem exists_due_iff (s : Scheduler) (now : ℤ) :
    (∃ c ∈ s.channels, c.nextDeadline ≤ now) ↔
      ∃ t, s.nextDeadline = some t ∧ t ≤ now := by
  constructor
  · rintro ⟨c, hc, hdue⟩
    cases hmin : s.nextDeadline with
    | none => rw [(nextDeadline_eq_none_iff s).mp hmin] at hc; cases hc
    | some t =>
        obtain ⟨-, hle⟩ := (nextDeadline_eq_some_iff s t).mp hmin
        exact ⟨t, rfl, (hle c hc).trans hdue⟩
  · rintro ⟨t, hmin, ht⟩
    obtain ⟨⟨c, hc, rfl⟩, -⟩ := (nextDeadline_eq_some_iff s t).mp hmin
    exact ⟨c, hc, ht⟩

/-- The slots of a schedule entry configured at `t0` that lie behind `now`. -/
def slotsOf (t0 : ℤ) (entry : ScheduleEntry) (now : ℤ) : Set ℤ :=
  slotsAfter t0 (periodFromHz entry.sampleRateHz) now

/-- The entry has a slot since the reading of the previous call, or this is the
first call. -/
def Due (t0 : ℤ) (previous : Option ℤ) (now : ℤ) (entry : ScheduleEntry) : Prop :=
  ∀ p ∈ previous, ∃ k : ℕ, p < t0 + k * periodFromHz entry.sampleRateHz ∧
    t0 + k * periodFromHz entry.sampleRateHz ≤ now

/-- The state of a channel between two calls. -/
structure OnGrid (t0 : ℤ) (previous : Option ℤ) (entry : ScheduleEntry)
    (channel : ChannelState) : Prop where
  entry_eq : channel.entry = entry
  period_eq : channel.period = periodFromHz entry.sampleRateHz
  first : previous = none → channel.nextDeadline = t0
  later : ∀ p ∈ previous, IsLeast (slotsOf t0 entry p) channel.nextDeadline

theorem onGrid_configure (entries : List ScheduleEntry) (t0 : ℤ) :
    List.Forall₂ (OnGrid t0 none) entries (configure entries t0).channels := by
  rw [configure, List.forall₂_map_right_iff]
  exact List.forall₂_same.mpr fun entry _ => ⟨rfl, rfl, fun _ => rfl, by simp⟩

/-- A channel on the grid is due exactly when its entry has a slot since the
previous call. -/
theorem OnGrid.due_iff {t0 now : ℤ} {previous : Option ℤ} {entry : ScheduleEntry}
    {channel : ChannelState} (h : OnGrid t0 previous entry channel) (hnow : t0 ≤ now) :
    channel.nextDeadline ≤ now ↔ Due t0 previous now entry := by
  cases previous with
  | none => simp [Due, h.first rfl, hnow]
  | some p =>
      have hleast := h.later p rfl
      simp only [Due, Option.mem_def, Option.some.injEq, forall_eq']
      constructor
      · intro hdue
        obtain ⟨⟨k, hk⟩, hp⟩ := hleast.1
        exact ⟨k, hk ▸ hp, hk ▸ hdue⟩
      · rintro ⟨k, hp, hle⟩
        exact (hleast.2 ⟨⟨k, rfl⟩, hp⟩).trans hle

theorem OnGrid.skip {t0 now : ℤ} {previous : Option ℤ} {entry : ScheduleEntry}
    {channel : ChannelState} (h : OnGrid t0 previous entry channel) (ht0 : t0 ≤ now)
    (hle : ∀ p ∈ previous, p ≤ now) (hdue : now < channel.nextDeadline) :
    OnGrid t0 (some now) entry channel := by
  refine ⟨h.entry_eq, h.period_eq, by simp, ?_⟩
  rintro _ ⟨⟩
  cases previous with
  | none => exact absurd (h.first rfl) (by omega)
  | some p => exact isLeast_of_lt (hle p rfl) (h.later p rfl) hdue

theorem OnGrid.advance {t0 now : ℤ} {previous : Option ℤ} {entry : ScheduleEntry}
    {channel : ChannelState} (h : OnGrid t0 previous entry channel)
    (hperiod : 0 < periodFromHz entry.sampleRateHz) (hdue : channel.nextDeadline ≤ now) :
    OnGrid t0 (some now) entry
      { channel with nextDeadline := after channel.period now channel.nextDeadline } := by
  refine ⟨h.entry_eq, h.period_eq, by simp, ?_⟩
  rintro _ ⟨⟩
  have hslot : ∃ k : ℕ, channel.nextDeadline =
      t0 + k * periodFromHz entry.sampleRateHz := by
    cases previous with
    | none => exact ⟨0, by simp [h.first rfl]⟩
    | some p => exact (h.later p rfl).1.1
  rw [h.period_eq]
  exact isLeast_after hperiod hslot hdue

open Classical in
theorem dispatchSteps_onGrid {t0 now : ℤ} {previous : Option ℤ} {fuel : ℕ}
    (ht0 : t0 ≤ now) (hle : ∀ p ∈ previous, p ≤ now)
    {channels channels' : List ChannelState} {polls : List Bytes}
    (hsteps : DispatchSteps exactAdd fuel now channels polls channels') :
    ∀ {entries : List ScheduleEntry},
      (∀ e ∈ entries, 0 < periodFromHz e.sampleRateHz) →
      List.Forall₂ (OnGrid t0 previous) entries channels →
      polls = (entries.filter fun e => Due t0 previous now e).map ScheduleEntry.channelId ∧
        List.Forall₂ (OnGrid t0 (some now)) entries channels' := by
  induction hsteps with
  | nil =>
      intro entries _ hgrid
      cases hgrid
      exact ⟨rfl, .nil⟩
  | skip hdue _ ih =>
      intro entries hperiod hgrid
      cases hgrid with
      | cons hhead hgrid =>
          obtain ⟨hpolls, hgrid'⟩ := ih
            (fun e he => hperiod e (List.mem_cons_of_mem _ he)) hgrid
          have hnot := (hhead.due_iff ht0).not.mp (not_le.mpr hdue)
          exact ⟨by simp [hnot, hpolls], .cons (hhead.skip ht0 hle hdue) hgrid'⟩
  | poll hdue hadvance _ ih =>
      intro entries hperiod hgrid
      cases hgrid with
      | cons hhead hgrid =>
          obtain ⟨hpolls, hgrid'⟩ := ih
            (fun e he => hperiod e (List.mem_cons_of_mem _ he)) hgrid
          have hpos := hperiod _ List.mem_cons_self
          have hdue' := (hhead.due_iff ht0).mp hdue
          rw [advance_eq (hhead.period_eq ▸ hpos) hdue hadvance]
          exact ⟨by simp [hdue', hpolls, hhead.entry_eq],
            .cons (hhead.advance hpos hdue) hgrid'⟩

/-- The states of a scheduler configured at `t0` after calls of `dispatch_due`
at the given readings. -/
inductive Run (entries : List ScheduleEntry) (t0 : ℤ) : List ℤ → Scheduler → Prop
  | configure : Run entries t0 [] (configure entries t0)
  | dispatch {readings s now d} (hrun : Run entries t0 readings s)
      (hreturns : Returns exactAdd s now d) :
      Run entries t0 (readings ++ [now]) d.scheduler

variable {entries : List ScheduleEntry} {t0 : ℤ}

theorem Run.onGrid (hperiod : ∀ e ∈ entries, 1 ≤ periodFromHz e.sampleRateHz)
    {readings : List ℤ} {s : Scheduler} (hrun : Run entries t0 readings s)
    (hsorted : (t0 :: readings).Pairwise (· ≤ ·)) :
    List.Forall₂ (OnGrid t0 readings.getLast?) entries s.channels := by
  induction hrun with
  | configure => exact onGrid_configure entries t0
  | @dispatch readings s now d hrun hreturns ih =>
      obtain ⟨hbefore, -, hlast⟩ := List.pairwise_append.mp
        (show ((t0 :: readings) ++ [now]).Pairwise (· ≤ ·) from hsorted)
      obtain ⟨-, fuel, hsteps⟩ := returns_iff.mp hreturns
      have hle : ∀ p ∈ readings.getLast?, p ≤ now := fun p hp =>
        hlast p (List.mem_cons_of_mem _ (List.mem_of_getLast? hp)) now (by simp)
      rw [List.getLast?_concat]
      exact (dispatchSteps_onGrid (hlast t0 (by simp) now (by simp)) hle hsteps
        hperiod (ih hbefore)).2

theorem period_pos_of_onGrid {previous : Option ℤ} {channels : List ChannelState}
    (hperiod : ∀ e ∈ entries, 1 ≤ periodFromHz e.sampleRateHz)
    (hgrid : List.Forall₂ (OnGrid t0 previous) entries channels) :
    ∀ c ∈ channels, 0 < c.period := by
  induction hgrid with
  | nil => simp
  | cons hhead _ ih =>
      intro c hc
      rcases List.mem_cons.mp hc with rfl | hc
      · rw [hhead.period_eq]
        exact hperiod _ List.mem_cons_self
      · exact ih (fun e he => hperiod e (List.mem_cons_of_mem _ he)) c hc

theorem Run.exists (hperiod : ∀ e ∈ entries, 1 ≤ periodFromHz e.sampleRateHz)
    {readings : List ℤ} (hsorted : (t0 :: readings).Pairwise (· ≤ ·)) :
    ∃ s, Run entries t0 readings s := by
  induction readings using List.reverseRecOn with
  | nil => exact ⟨_, .configure⟩
  | append_singleton readings now ih =>
      have hbefore := (List.pairwise_append.mp
        (show ((t0 :: readings) ++ [now]).Pairwise (· ≤ ·) from hsorted)).1
      obtain ⟨s, hrun⟩ := ih hbefore
      obtain ⟨d, hreturns⟩ := returns_exists now
        (period_pos_of_onGrid hperiod (hrun.onGrid hperiod hbefore))
      exact ⟨d.scheduler, hrun.dispatch hreturns⟩

open Classical in
/-- What a call at the reading `now` does after calls at the given readings. -/
structure CallOnGrid (entries : List ScheduleEntry) (t0 : ℤ) (readings : List ℤ) (now : ℤ)
    (d : Dispatch) : Prop where
  polls_eq : d.polls =
    (entries.filter fun e => Due t0 readings.getLast? now e).map ScheduleEntry.channelId
  polled_eq : d.polled = d.polls.length
  deadlines : List.Forall₂
    (fun e c => c.entry = e ∧ IsLeast (slotsOf t0 e now) c.nextDeadline)
    entries d.scheduler.channels
  nextDeadline_eq : ∀ t, d.scheduler.nextDeadline = some t ↔
    IsLeast {u | ∃ c ∈ d.scheduler.channels, c.nextDeadline = u} t
  later_polls : ∀ later, now ≤ later → ∀ d', Returns exactAdd d.scheduler later d' →
    (d'.polls ≠ [] ↔ ∃ t, d.scheduler.nextDeadline = some t ∧ t ≤ later)

theorem callOnGrid_of_returns {readings : List ℤ} {now : ℤ} {s : Scheduler} {d : Dispatch}
    (hperiod : ∀ e ∈ entries, 1 ≤ periodFromHz e.sampleRateHz)
    (hsorted : (t0 :: (readings ++ [now])).Pairwise (· ≤ ·))
    (hrun : Run entries t0 readings s) (hreturns : Returns exactAdd s now d) :
    CallOnGrid entries t0 readings now d := by
  obtain ⟨hbefore, -, hlast⟩ := List.pairwise_append.mp
    (show ((t0 :: readings) ++ [now]).Pairwise (· ≤ ·) from hsorted)
  obtain ⟨hpolled, fuel, hsteps⟩ := returns_iff.mp hreturns
  have hle : ∀ p ∈ readings.getLast?, p ≤ now := fun p hp =>
    hlast p (List.mem_cons_of_mem _ (List.mem_of_getLast? hp)) now (by simp)
  obtain ⟨hpolls, hgrid⟩ := dispatchSteps_onGrid (hlast t0 (by simp) now (by simp)) hle
    hsteps hperiod (hrun.onGrid hperiod hbefore)
  refine ⟨hpolls, hpolled, hgrid.imp fun e c h => ⟨h.entry_eq, h.later now rfl⟩, ?_, ?_⟩
  · intro t
    rw [nextDeadline_eq_some_iff]
    refine and_congr_right fun _ => ?_
    simp [lowerBounds]
  · intro later _ d' hlater
    obtain ⟨-, fuel', hsteps'⟩ := returns_iff.mp hlater
    rw [polls_ne_nil_iff hsteps', exists_due_iff]

/-- For every schedule whose periods are at least one nanosecond and every
non-decreasing sequence of readings from the configuration on, all calls return,
and each polls and reschedules on the grid. -/
theorem dispatchDue_on_grid (entries : List ScheduleEntry)
    (hperiod : ∀ e ∈ entries, 1 ≤ periodFromHz e.sampleRateHz) (t0 : ℤ)
    (readings : List ℤ) (now : ℤ)
    (hsorted : (t0 :: (readings ++ [now])).Pairwise (· ≤ ·)) :
    (∃ s, Run entries t0 readings s) ∧
      ∀ s, Run entries t0 readings s →
        (∃ d, Returns exactAdd s now d) ∧
          ∀ d, Returns exactAdd s now d → CallOnGrid entries t0 readings now d := by
  have hbefore := (List.pairwise_append.mp
    (show ((t0 :: readings) ++ [now]).Pairwise (· ≤ ·) from hsorted)).1
  refine ⟨Run.exists hperiod hbefore, fun s hrun => ⟨?_, fun d hreturns => ?_⟩⟩
  · exact returns_exists now
      (period_pos_of_onGrid hperiod (hrun.onGrid hperiod hbefore))
  · exact callOnGrid_of_returns hperiod hsorted hrun hreturns

theorem dispatchDue_on_grid_ten_hertz :
    (∃ s, Run [⟨Bytes.ascii "fast", .finite 10⟩] 0 [0, 250000000] s) ∧
      ∀ s, Run [⟨Bytes.ascii "fast", .finite 10⟩] 0 [0, 250000000] s →
        (∃ d, Returns exactAdd s 300000000 d) ∧
          ∀ d, Returns exactAdd s 300000000 d →
            CallOnGrid [⟨Bytes.ascii "fast", .finite 10⟩] 0 [0, 250000000] 300000000 d :=
  dispatchDue_on_grid _ (by decide +kernel) 0 _ _ (by decide)

end Bossa.Telemetry.Scheduler
