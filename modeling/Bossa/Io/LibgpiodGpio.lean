import Bossa.Data.Bytes
import Bossa.Transition.Fold
import Mathlib.Data.List.AList

/-!
# The GPIO controller over libgpiod

`io/libgpiod_gpio.cpp`, as it is built with libgpiod. What the calls of libgpiod return is an
argument of every call; a line object remembers the chip it was taken from and the direction
it was requested in.

The controller keeps one handle for an offset. A request for an offset that has one is
granted without a look at the chip and the direction, so a granted line is the requested one
as long as no request names an offset that is held otherwise.
-/

namespace Bossa.Io

inductive GpioDirection where
  | input
  | output
  deriving DecidableEq, Repr

inductive GpioValue where
  | low
  | high
  deriving DecidableEq, Repr

/-- A line object of libgpiod after a successful request. -/
structure GpiodLine where
  chip : Bytes
  offset : UInt32
  direction : GpioDirection
  deriving DecidableEq, Repr

/-- `LibgpiodGpio::LineHandle`. -/
structure LineHandle where
  chip : Bytes
  line : GpiodLine
  deriving DecidableEq, Repr

/-- The state of a `LibgpiodGpio`. -/
structure LibgpiodGpio where
  lines : AList fun _ : UInt32 => LineHandle := ∅
  chipName : Bytes := []

/-- What libgpiod makes of a request: whether the chip opens, whether it has the line, and
the status of the request. -/
structure RequestOutcome where
  chipOpens : Bool
  lineFound : Bool
  requestStatus : ℤ
  deriving DecidableEq, Repr

namespace LibgpiodGpio

/-- `LibgpiodGpio::request_line`. The name of the chip is passed on as a C string. -/
def requestLine (outcome : RequestOutcome) (chipName : Bytes) (offset : UInt32)
    (direction : GpioDirection) (g : LibgpiodGpio) : Bool × LibgpiodGpio :=
  if chipName = [] then (false, g)
  else if (g.lines.lookup offset).isSome then (true, g)
  else if !outcome.chipOpens then (false, g)
  else if !outcome.lineFound then (false, g)
  else if outcome.requestStatus ≠ 0 then (false, g)
  else
    let chip := Bytes.cString chipName
    (true,
      { lines := g.lines.insert offset ⟨chip, chip, offset, direction⟩
        chipName := chipName })

/-- `LibgpiodGpio::read_line`: the line that is read, and the value unless it fails. -/
def readLine (rawValue : ℤ) (valueIsNull : Bool) (offset : UInt32) (g : LibgpiodGpio) :
    Option GpiodLine × Option GpioValue :=
  if valueIsNull then (none, none)
  else
    match g.lines.lookup offset with
    | none => (none, none)
    | some handle =>
        (some handle.line,
          if rawValue < 0 then none else some (if rawValue = 0 then .low else .high))

/-- `LibgpiodGpio::write_line`: the line that is written and the raw value, and whether it
succeeds. -/
def writeLine (status : ℤ) (offset : UInt32) (value : GpioValue) (g : LibgpiodGpio) :
    Option (GpiodLine × ℤ) × Bool :=
  match g.lines.lookup offset with
  | none => (none, false)
  | some handle => (some (handle.line, if value = .low then 0 else 1), status = 0)

/-- The controller holds the line, and reads and writes with its offset act on it. -/
structure Grants (g : LibgpiodGpio) (line : GpiodLine) : Prop where
  held : (g.lines.lookup line.offset).map LineHandle.line = some line
  read : ∀ rawValue, (g.readLine rawValue false line.offset).1 = some line
  write : ∀ status value,
    ((g.writeLine status line.offset value).1).map Prod.fst = some line

end LibgpiodGpio

/-- A call of the controller, with what libgpiod makes of it. -/
inductive GpioCall where
  | request (outcome : RequestOutcome) (chipName : Bytes) (offset : UInt32)
      (direction : GpioDirection)
  | read (rawValue : ℤ) (valueIsNull : Bool) (offset : UInt32)
  | write (status : ℤ) (offset : UInt32) (value : GpioValue)
  deriving Repr

/-- The controller after some calls, and for every offset the line that the latest request
for it named, if it was granted. -/
structure GpioHistory where
  gpio : LibgpiodGpio := {}
  granted : UInt32 → Option GpiodLine := fun _ => none

namespace GpioHistory

/-- A call; neither `read_line` nor `write_line` changes the controller. -/
def next (h : GpioHistory) : GpioCall → GpioHistory
  | .request outcome chipName offset direction =>
      let (granted, gpio) := h.gpio.requestLine outcome chipName offset direction
      let line := if granted then some ⟨Bytes.cString chipName, offset, direction⟩ else none
      { gpio := gpio, granted := Function.update h.granted offset line }
  | .read _ _ _ => h
  | .write _ _ _ => h

/-- The history of a list of calls, from a fresh controller. -/
def after (calls : List GpioCall) : GpioHistory := calls.foldl next {}

/-- A line that was granted for the offset is held and used. -/
def SoundAt (h : GpioHistory) (offset : UInt32) : Prop :=
  ∀ line, h.granted offset = some line → line.offset = offset ∧ h.gpio.Grants line

/-- All granted lines are held and used. -/
def Sound (h : GpioHistory) : Prop := ∀ offset, h.SoundAt offset

/-- A request with the name of a chip is not for an offset that is held on another chip or in
another direction. -/
def Careful (h : GpioHistory) : GpioCall → Prop
  | .request _ chipName offset direction =>
      chipName ≠ [] → ∀ handle, h.gpio.lines.lookup offset = some handle →
        handle.line.chip = Bytes.cString chipName ∧ handle.line.direction = direction
  | _ => True

end GpioHistory

namespace LibgpiodGpio

variable {g : LibgpiodGpio} {line : GpiodLine}

theorem requestLine_cases (outcome : RequestOutcome) (chipName : Bytes) (offset : UInt32)
    (direction : GpioDirection) (g : LibgpiodGpio) :
    (g.requestLine outcome chipName offset direction = (false, g) ∧
        (chipName = [] ∨ g.lines.lookup offset = none)) ∨
      (chipName ≠ [] ∧ (∃ handle, g.lines.lookup offset = some handle) ∧
        g.requestLine outcome chipName offset direction = (true, g)) ∨
      (g.lines.lookup offset = none ∧ g.requestLine outcome chipName offset direction =
        (true,
          { lines := g.lines.insert offset
              ⟨Bytes.cString chipName, Bytes.cString chipName, offset, direction⟩
            chipName := chipName })) := by
  unfold requestLine
  by_cases hname : chipName = []
  · exact .inl ⟨if_pos hname, .inl hname⟩
  rw [if_neg hname]
  cases hlookup : g.lines.lookup offset with
  | some handle => exact .inr (.inl ⟨hname, ⟨handle, rfl⟩, rfl⟩)
  | none =>
      simp only [Option.isSome_none, Bool.false_eq_true, if_false]
      split
      · exact .inl ⟨rfl, .inr trivial⟩
      · split
        · exact .inl ⟨rfl, .inr trivial⟩
        · split
          · exact .inl ⟨rfl, .inr trivial⟩
          · exact .inr (.inr ⟨trivial, rfl⟩)

theorem grants_iff : g.Grants line ↔
    ∃ handle, g.lines.lookup line.offset = some handle ∧ handle.line = line := by
  constructor
  · exact fun h => Option.map_eq_some_iff.mp h.held
  · rintro ⟨handle, hlookup, rfl⟩
    exact
      { held := by rw [hlookup]; rfl
        read := fun rawValue => by simp [readLine, hlookup]
        write := fun status value => by simp [writeLine, hlookup] }

end LibgpiodGpio

namespace GpioHistory

variable {h : GpioHistory}

/-- Every line is kept under its own offset. -/
def Keyed (h : GpioHistory) : Prop :=
  ∀ offset handle, h.gpio.lines.lookup offset = some handle → handle.line.offset = offset

theorem lookup_next_of_ne {offset offset' : UInt32} (hne : offset' ≠ offset)
    (outcome : RequestOutcome) (chipName : Bytes) (direction : GpioDirection) :
    (h.next (.request outcome chipName offset direction)).gpio.lines.lookup offset' =
      h.gpio.lines.lookup offset' := by
  obtain ⟨hrequest, -⟩ | ⟨-, -, hrequest⟩ | ⟨-, hrequest⟩ :=
    h.gpio.requestLine_cases outcome chipName offset direction
  · simp only [GpioHistory.next, hrequest]
  · simp only [GpioHistory.next, hrequest]
  · simp only [GpioHistory.next, hrequest]
    exact AList.lookup_insert_ne hne

theorem Keyed.next (hkeyed : h.Keyed) (call : GpioCall) : (h.next call).Keyed := by
  cases call with
  | read => exact hkeyed
  | write => exact hkeyed
  | request outcome chipName offset direction =>
      intro offset' handle hlookup
      by_cases hoffset : offset' = offset
      · subst hoffset
        obtain ⟨hrequest, -⟩ | ⟨-, -, hrequest⟩ | ⟨-, hrequest⟩ :=
          h.gpio.requestLine_cases outcome chipName offset' direction
        · simp only [GpioHistory.next, hrequest] at hlookup
          exact hkeyed offset' handle hlookup
        · simp only [GpioHistory.next, hrequest] at hlookup
          exact hkeyed offset' handle hlookup
        · simp only [GpioHistory.next, hrequest, AList.lookup_insert] at hlookup
          cases hlookup
          rfl
      · rw [lookup_next_of_ne hoffset] at hlookup
        exact hkeyed offset' handle hlookup

theorem keyed_after (calls : List GpioCall) : (after calls).Keyed := by
  induction calls using List.reverseRecOn with
  | nil => exact fun _ _ hlookup => nomatch hlookup
  | append_singleton calls call ih =>
      rw [after, List.foldl_append]
      exact ih.next call

theorem soundAt_iff {offset : UInt32} : h.SoundAt offset ↔
    ∀ line, h.granted offset = some line → line.offset = offset ∧
      ∃ handle, h.gpio.lines.lookup offset = some handle ∧ handle.line = line := by
  refine forall₂_congr fun line _ => and_congr_right ?_
  rintro rfl
  exact LibgpiodGpio.grants_iff

theorem soundAt_next_of_ne {offset offset' : UInt32} (hne : offset' ≠ offset)
    (outcome : RequestOutcome) (chipName : Bytes) (direction : GpioDirection) :
    (h.next (.request outcome chipName offset direction)).SoundAt offset' ↔
      h.SoundAt offset' := by
  rw [soundAt_iff, soundAt_iff, lookup_next_of_ne hne]
  have hgranted : (h.next (.request outcome chipName offset direction)).granted offset' =
      h.granted offset' := Function.update_of_ne hne _ _
  rw [hgranted]

/-- After a request its offset is sound exactly when the request was careful. -/
theorem Keyed.soundAt_next_iff (hkeyed : h.Keyed) (outcome : RequestOutcome) (chipName : Bytes)
    (offset : UInt32) (direction : GpioDirection) :
    (h.next (.request outcome chipName offset direction)).SoundAt offset ↔
      h.Careful (.request outcome chipName offset direction) := by
  rw [soundAt_iff]
  obtain ⟨hrequest, hcase⟩ | ⟨hname, ⟨held, hheld⟩, hrequest⟩ | ⟨hnone, hrequest⟩ :=
    h.gpio.requestLine_cases outcome chipName offset direction
  · refine iff_of_true ?_ ?_
    · intro line hgranted
      simp [GpioHistory.next, hrequest] at hgranted
    · intro hname handle hlookup
      rcases hcase with hempty | hnone
      · exact absurd hempty hname
      · exact absurd (hnone.symm.trans hlookup) nofun
  · simp only [GpioHistory.next, hrequest, Function.update_self, if_true, Option.some.injEq,
      hheld, Careful]
    constructor
    · rintro hsound - handle rfl
      obtain ⟨-, _, rfl, hline⟩ := hsound _ rfl
      rw [hline]
      exact ⟨rfl, rfl⟩
    · rintro hcareful _ rfl
      obtain ⟨hchip, hdirection⟩ := hcareful hname held rfl
      refine ⟨rfl, held, rfl, ?_⟩
      rw [← hchip, ← hdirection, ← hkeyed offset held hheld]
  · refine iff_of_true ?_ ?_
    · intro line hgranted
      simp only [GpioHistory.next, hrequest, Function.update_self, if_true,
        Option.some.injEq] at hgranted ⊢
      exact ⟨hgranted ▸ rfl, _, AList.lookup_insert _, hgranted⟩
    · intro _ handle hlookup
      exact absurd (hnone.symm.trans hlookup) nofun

theorem Sound.next_iff (hsound : h.Sound) (hkeyed : h.Keyed) (call : GpioCall) :
    (h.next call).Sound ↔ h.Careful call := by
  cases call with
  | read => exact iff_of_true hsound trivial
  | write => exact iff_of_true hsound trivial
  | request outcome chipName offset direction =>
      rw [← hkeyed.soundAt_next_iff]
      constructor
      · exact fun hnext => hnext offset
      · intro hnext offset'
        by_cases hoffset : offset' = offset
        · exact hoffset ▸ hnext
        · exact (soundAt_next_of_ne hoffset outcome chipName direction).mpr (hsound offset')

/-- In every part of a run the granted lines are the requested ones exactly when no request
names an offset that is held on another chip or in another direction. -/
theorem sound_iff_careful (calls : List GpioCall) :
    (∀ done, done <+: calls → (after done).Sound) ↔
      ∀ done call, done ++ [call] <+: calls → (after done).Careful call := by
  have hfresh : Sound {} ∧ Keyed {} := ⟨fun _ _ hgranted => (nomatch hgranted), keyed_after []⟩
  refine Iff.trans ?_ (Transition.forall_prefix_foldl_iff
    (P := fun h => h.Sound ∧ h.Keyed) hfresh (fun h call hh => ?_) calls)
  · exact forall₂_congr fun done _ => (and_iff_left (keyed_after done)).symm
  · rw [and_iff_left (hh.2.next call)]
    exact hh.1.next_iff hh.2 call

/-- Offset 5 of two chips: the second request is granted, and the line of the first chip is
held. -/
theorem not_sound : ¬ ∀ calls : List GpioCall, (after calls).Sound := by
  intro hsound
  have hgrants := hsound
    [.request ⟨true, true, 0⟩ (Bytes.ascii "gpiochip0") 5 .output,
      .request ⟨true, true, 0⟩ (Bytes.ascii "gpiochip4") 5 .output] 5
    ⟨Bytes.ascii "gpiochip4", 5, .output⟩ (by decide)
  exact absurd hgrants.2.held (by decide)

end GpioHistory

end Bossa.Io
