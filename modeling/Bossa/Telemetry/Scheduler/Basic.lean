import Bossa.Core.Abort
import Bossa.Data.Bytes
import Bossa.Data.Double

/-!
# The scheduler

`src/telemetry/scheduler.cpp`. Time points and durations of the steady clock
are counts of nanoseconds. The clock function has no counterpart: each call is
given the reading it takes.

The catch-up loop of `dispatch_due` may not end, so it runs on fuel, and it may
leave the 64-bit range, so addition is a parameter: `exactAdd` on unbounded
integers, `add64` with the range checked.
-/

namespace Bossa.Telemetry

/-- Per-channel schedule entry. -/
structure ScheduleEntry where
  channelId : Bytes
  sampleRateHz : Double
  deriving DecidableEq, Repr

/-- `Scheduler::ChannelState`. -/
structure ChannelState where
  entry : ScheduleEntry
  nextDeadline : ℤ
  period : ℤ
  deriving DecidableEq, Repr

/-- The state of a `Scheduler`. -/
structure Scheduler where
  channels : List ChannelState
  deriving DecidableEq, Repr

abbrev Addition := ℤ → ℤ → Except Abort ℤ

def exactAdd : Addition := fun a b => .ok (a + b)

/-- The range of a signed 64-bit integer. -/
def Fits64 (a : ℤ) : Prop := -2 ^ 63 ≤ a ∧ a < 2 ^ 63

instance (a : ℤ) : Decidable (Fits64 a) := inferInstanceAs (Decidable (_ ∧ _))

/-- Addition of signed 64-bit integers, where overflow is undefined. -/
def add64 : Addition := fun a b =>
  if Fits64 a ∧ Fits64 b ∧ Fits64 (a + b) then .ok (a + b) else .error .overflow

namespace Scheduler

/-- `Scheduler::period_from_hz`: the reciprocal of the rate, truncated to whole
nanoseconds, and one second for a rate that is not a positive number. -/
def periodFromHz : Double → ℤ
  | .finite rate => if 0 < rate then ⌊1 / rate * 1000000000⌋ else 1000000000
  | _ => 1000000000

/-- `Scheduler::configure` at the clock reading `now`. -/
def configure (entries : List ScheduleEntry) (now : ℤ) : Scheduler :=
  ⟨entries.map fun entry =>
    { entry := entry
      nextDeadline := now
      period := periodFromHz entry.sampleRateHz }⟩

/-- `while (next <= now) next += channel.period;` -/
def catchUp (add : Addition) (period now : ℤ) : ℕ → ℤ → Except Abort ℤ
  | 0, _ => .error .outOfFuel
  | fuel + 1, next =>
      if next ≤ now then do
        let next ← add next period
        catchUp add period now fuel next
      else pure next

/-- The body of the loop of `dispatch_due` for a due channel, behind the poll. -/
def advance (add : Addition) (fuel : ℕ) (now : ℤ) (channel : ChannelState) :
    Except Abort ChannelState := do
  let next ← add channel.nextDeadline channel.period
  let next ← catchUp add channel.period now fuel next
  let next ← if next ≤ channel.nextDeadline then add now channel.period else pure next
  pure { channel with nextDeadline := next }

/-- What `dispatch_due` leaves behind: its return value, the channel ids it
passed to the callback and the scheduler. -/
structure Dispatch where
  polled : ℕ
  polls : List Bytes
  scheduler : Scheduler
  deriving DecidableEq, Repr

/-- The loop of `dispatch_due`. -/
def dispatchChannels (add : Addition) (fuel : ℕ) (now : ℤ) :
    List ChannelState → Except Abort Dispatch
  | [] => pure ⟨0, [], ⟨[]⟩⟩
  | channel :: channels =>
      if channel.nextDeadline > now then do
        let rest ← dispatchChannels add fuel now channels
        pure ⟨rest.polled, rest.polls, ⟨channel :: rest.scheduler.channels⟩⟩
      else do
        let advanced ← advance add fuel now channel
        let rest ← dispatchChannels add fuel now channels
        pure ⟨rest.polled + 1, channel.entry.channelId :: rest.polls,
          ⟨advanced :: rest.scheduler.channels⟩⟩

/-- `Scheduler::dispatch_due` at the clock reading `now`. The callback does not
touch the scheduler, so the ids it is called with are returned instead. -/
def dispatchDue (add : Addition) (fuel : ℕ) (now : ℤ) (s : Scheduler) :
    Except Abort Dispatch :=
  dispatchChannels add fuel now s.channels

/-- `Scheduler::next_deadline`. -/
def nextDeadline (s : Scheduler) : Option ℤ :=
  (s.channels.map ChannelState.nextDeadline).min?

/-- A call of `dispatch_due` at the reading `now` returns `d`: its loops end. -/
def Returns (add : Addition) (s : Scheduler) (now : ℤ) (d : Dispatch) : Prop :=
  ∃ fuel, s.dispatchDue add fuel now = .ok d

/-- A call of `dispatch_due` goes through the channels one by one: one that is
not due stays as it is, and one that is due is polled and advanced. -/
inductive DispatchSteps (add : Addition) (fuel : ℕ) (now : ℤ) :
    List ChannelState → List Bytes → List ChannelState → Prop
  | nil : DispatchSteps add fuel now [] [] []
  | skip {channel channels polls channels'} (hdue : now < channel.nextDeadline)
      (hrest : DispatchSteps add fuel now channels polls channels') :
      DispatchSteps add fuel now (channel :: channels) polls (channel :: channels')
  | poll {channel channel' channels polls channels'} (hdue : channel.nextDeadline ≤ now)
      (hadvance : advance add fuel now channel = .ok channel')
      (hrest : DispatchSteps add fuel now channels polls channels') :
      DispatchSteps add fuel now (channel :: channels)
        (channel.entry.channelId :: polls) (channel' :: channels')

theorem DispatchSteps.of_ok {add : Addition} {fuel : ℕ} {now : ℤ} :
    ∀ {channels : List ChannelState} {d : Dispatch},
      dispatchChannels add fuel now channels = .ok d →
      d.polled = d.polls.length ∧
        DispatchSteps add fuel now channels d.polls d.scheduler.channels
  | [], d, h => by
      cases h
      exact ⟨rfl, .nil⟩
  | channel :: channels, d, h => by
      rw [dispatchChannels] at h
      by_cases hdue : channel.nextDeadline > now
      · rw [if_pos hdue, Abort.bind_eq_ok_iff] at h
        obtain ⟨rest, hrest, h⟩ := h
        obtain ⟨hpolled, hsteps⟩ := of_ok hrest
        cases h
        exact ⟨hpolled, .skip hdue hsteps⟩
      · rw [if_neg hdue, Abort.bind_eq_ok_iff] at h
        obtain ⟨channel', hadvance, h⟩ := h
        rw [Abort.bind_eq_ok_iff] at h
        obtain ⟨rest, hrest, h⟩ := h
        obtain ⟨hpolled, hsteps⟩ := of_ok hrest
        cases h
        exact ⟨by rw [List.length_cons, hpolled], .poll (not_lt.mp hdue) hadvance hsteps⟩

theorem DispatchSteps.eq_ok {add : Addition} {fuel : ℕ} {now : ℤ}
    {channels channels' : List ChannelState} {polls : List Bytes}
    (h : DispatchSteps add fuel now channels polls channels') :
    dispatchChannels add fuel now channels = .ok ⟨polls.length, polls, ⟨channels'⟩⟩ := by
  induction h with
  | nil => rfl
  | skip hdue _ ih =>
      rw [dispatchChannels, if_pos hdue, ih]
      rfl
  | poll hdue hadvance _ ih =>
      rw [dispatchChannels, if_neg (not_lt.mpr hdue), hadvance, ih]
      rfl

theorem returns_iff {add : Addition} {s : Scheduler} {now : ℤ} {d : Dispatch} :
    Returns add s now d ↔
      d.polled = d.polls.length ∧
        ∃ fuel, DispatchSteps add fuel now s.channels d.polls d.scheduler.channels := by
  constructor
  · rintro ⟨fuel, h⟩
    obtain ⟨hpolled, hsteps⟩ := DispatchSteps.of_ok h
    exact ⟨hpolled, fuel, hsteps⟩
  · rintro ⟨hpolled, fuel, hsteps⟩
    refine ⟨fuel, ?_⟩
    rw [dispatchDue, hsteps.eq_ok, ← hpolled]

end Scheduler

end Bossa.Telemetry
