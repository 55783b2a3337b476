import Bossa.Core.Service

/-!
# How soon the service loop answers

The events of a run that are no signals are the steps of `Service::start` itself. While a
stop or a reload is asked for, each of them uses up one of the steps that are left before
the answer, and until the loop has ended there is always a next one.
-/

namespace Bossa.Core.Service

open Transition

/-- The event is a step of `Service::start`, not the delivery of a signal. -/
def Event.own : Event → Bool
  | .signal _ => false
  | _ => true

/-- The steps that are left at most when a stop has been asked for. -/
def Place.stepsLeft : Place → ℕ
  | testReload => 8
  | clearReload => 7
  | callReload => 6
  | insideReload => 5
  | callLoop => 4
  | insideLoop | announce => 3
  | testRunning => 2
  | closeLog => 1
  | _ => 0

/-- The steps that are left at most before a reload that has been asked for. -/
def Place.stepsBefore : Place → ℕ
  | insideReload => 6
  | callLoop => 5
  | insideLoop | announce => 4
  | testRunning => 3
  | testReload => 2
  | clearReload | closeLog => 1
  | _ => 0

theorem Place.stepsLeft_le (place : Place) : place.stepsLeft ≤ 8 := by
  cases place <;> decide

theorem Place.stepsBefore_le (place : Place) : place.stepsBefore ≤ 6 := by
  cases place <;> decide

variable {s t : Service} {e : Event} {events : List Event}

theorem Step.stepsLeft (h : Step s e t) (hs : s.Stopping) :
    (if e.own = true then 1 else 0) + t.place.stepsLeft ≤ s.place.stepsLeft := by
  have hhandled := hs.handled
  have hstopped := hs.stopped
  cases h with
  | enterLoop => nomatch hstopped
  | signal signal _ => simp [signalHandler_place, Event.own]
  | setRunning | setReload | openLogging | openLoggingFails | installHandlers
  | installHandlersFails => exact absurd hhandled Bool.false_ne_true
  | _ => simp [Place.stepsLeft, Event.own]

theorem Step.stepsBefore (h : Step s e t) (he : e ≠ .reload) (hs : s.Awaiting) :
    (if e.own = true then 1 else 0) + t.place.stepsBefore ≤ s.place.stepsBefore := by
  have hhandled := hs.handled
  have hawaits := hs.awaits
  cases h with
  | callReload => exact absurd rfl he
  | noReloadNeeded => simp [Awaits, Exited] at hawaits
  | signal signal _ => simp [signalHandler_place, Event.own]
  | setRunning | setReload | openLogging | openLoggingFails | installHandlers
  | installHandlersFails => exact absurd hhandled Bool.false_ne_true
  | _ => simp [Place.stepsBefore, Event.own]

theorem countP_own_le_of_stopping (hrun : Run Step s events t) (hs : s.Stopping) :
    events.countP Event.own ≤ 8 := by
  have hlabels (e : Event) (_ : e ∈ events) : True := trivial
  refine Nat.le_trans ?_ s.place.stepsLeft_le
  exact hrun.countP_le (P := Stopping) (fun s => s.place.stepsLeft)
    (fun s e t _ hs h => ⟨(h.stopping hs).1, h.stepsLeft hs⟩) hlabels hs

theorem countP_own_le_of_awaiting (hrun : Run Step s events t) (hs : s.Awaiting)
    (hreload : Event.reload ∉ events) : events.countP Event.own ≤ 6 := by
  have hlabels (e : Event) (he : e ∈ events) : e ≠ .reload := fun h => hreload (h ▸ he)
  refine Nat.le_trans ?_ s.place.stepsBefore_le
  exact hrun.countP_le (P := Awaiting) (fun s => s.place.stepsBefore)
    (fun s e t he hs h => ⟨h.awaiting he hs, h.stepsBefore he hs⟩) hlabels hs

end Bossa.Core.Service
