import Bossa.Transition.Run

/-!
# The service loop and its signals

`core/service.cpp`. The handlers of the signals write two flags, and `Service::start` reads
and writes the same flags; a signal can be delivered between any two of its steps, once the
handlers are installed. The bodies of `reload()` and `loop()` are opaque: they leave the
flags alone, take any time, and return or throw.
-/

namespace Bossa.Core

open Transition

namespace Service

/-- The signals with a handler. -/
inductive Signal where
  | hup
  | term
  | int
  deriving DecidableEq, Repr

/-- The next step of `Service::start`, with `consume_reload_if_needed` in its place. -/
inductive Place where
  | setRunning
  | setReload
  | openLogging
  | installHandlers
  | announce
  | testRunning
  | testReload
  | clearReload
  | callReload
  | insideReload
  | callLoop
  | insideLoop
  | closeLog
  | ended
  | failed
  deriving DecidableEq, Repr

/-- What happens in a step, as far as it is counted. -/
inductive Event where
  | quiet
  | signal (signal : Signal)
  | reload
  | loop
  deriving DecidableEq, Repr

/-- The places behind the installation of the handlers. -/
def Place.handled : Place → Bool
  | setRunning | setReload | openLogging | installHandlers | failed => false
  | _ => true

/-- The reloads that can still be begun when a stop has been asked for. -/
def Place.reloadsLeft : Place → ℕ
  | testReload | clearReload | callReload => 1
  | _ => 0

/-- The loops that can still be begun when a stop has been asked for. -/
def Place.loopsLeft : Place → ℕ
  | testReload | clearReload | callReload | insideReload | callLoop => 1
  | _ => 0

theorem Place.reloadsLeft_le (place : Place) : place.reloadsLeft ≤ 1 := by
  cases place <;> decide

theorem Place.loopsLeft_le (place : Place) : place.loopsLeft ≤ 1 := by
  cases place <;> decide

/-- The loops that can still be begun before a reload that has been asked for. -/
def Place.loopsBefore : Place → ℕ
  | insideReload | callLoop => 1
  | _ => 0

theorem Place.loopsBefore_le (place : Place) : place.loopsBefore ≤ 1 := by
  cases place <;> decide

def Place.reloadsNext : Place → ℕ
  | callReload => 1
  | _ => 0

end Service

/-- The flags `g_running` and `g_reload`, and where `Service::start` is. -/
structure Service where
  running : Bool
  reload : Bool
  place : Service.Place
  deriving DecidableEq, Repr

namespace Service

/-- `signal_handler`. -/
def signalHandler : Signal → Service → Service
  | .hup, s => { s with reload := true }
  | .term, s => { s with running := false }
  | .int, s => { s with running := false }

/-- The loop has been left. -/
def Exited (s : Service) : Prop := s.place = .closeLog ∨ s.place = .ended

/-- A step of `Service::start`, or the delivery of a signal. -/
inductive Step : Service → Event → Service → Prop
  | setRunning {running reload : Bool} :
      Step ⟨running, reload, .setRunning⟩ .quiet ⟨true, reload, .setReload⟩
  | setReload {running reload : Bool} :
      Step ⟨running, reload, .setReload⟩ .quiet ⟨running, false, .openLogging⟩
  /-- `daemonize` or `open_logging`. -/
  | openLogging {running reload : Bool} :
      Step ⟨running, reload, .openLogging⟩ .quiet ⟨running, reload, .installHandlers⟩
  | openLoggingFails {running reload : Bool} :
      Step ⟨running, reload, .openLogging⟩ .quiet ⟨running, reload, .failed⟩
  | installHandlers {running reload : Bool} :
      Step ⟨running, reload, .installHandlers⟩ .quiet ⟨running, reload, .announce⟩
  | installHandlersFails {running reload : Bool} :
      Step ⟨running, reload, .installHandlers⟩ .quiet ⟨running, reload, .failed⟩
  /-- The line in the log and `sd_notify`. -/
  | announce {running reload : Bool} :
      Step ⟨running, reload, .announce⟩ .quiet ⟨running, reload, .testRunning⟩
  | enterLoop {reload : Bool} :
      Step ⟨true, reload, .testRunning⟩ .quiet ⟨true, reload, .testReload⟩
  | leaveLoop {reload : Bool} :
      Step ⟨false, reload, .testRunning⟩ .quiet ⟨false, reload, .closeLog⟩
  | reloadNeeded {running : Bool} :
      Step ⟨running, true, .testReload⟩ .quiet ⟨running, true, .clearReload⟩
  | noReloadNeeded {running : Bool} :
      Step ⟨running, false, .testReload⟩ .quiet ⟨running, false, .callLoop⟩
  | clearReload {running reload : Bool} :
      Step ⟨running, reload, .clearReload⟩ .quiet ⟨running, false, .callReload⟩
  | callReload {running reload : Bool} :
      Step ⟨running, reload, .callReload⟩ .reload ⟨running, reload, .insideReload⟩
  | reloadReturns {running reload : Bool} :
      Step ⟨running, reload, .insideReload⟩ .quiet ⟨running, reload, .callLoop⟩
  | reloadThrows {running reload : Bool} :
      Step ⟨running, reload, .insideReload⟩ .quiet ⟨running, reload, .ended⟩
  | callLoop {running reload : Bool} :
      Step ⟨running, reload, .callLoop⟩ .loop ⟨running, reload, .insideLoop⟩
  | loopReturns {running reload : Bool} :
      Step ⟨running, reload, .insideLoop⟩ .quiet ⟨running, reload, .testRunning⟩
  | loopThrows {running reload : Bool} :
      Step ⟨running, reload, .insideLoop⟩ .quiet ⟨running, reload, .ended⟩
  | closeLog {running reload : Bool} :
      Step ⟨running, reload, .closeLog⟩ .quiet ⟨running, reload, .ended⟩
  | signal {s : Service} (signal : Signal) (hhandled : s.place.handled = true) :
      Step s (.signal signal) (signalHandler signal s)

/-! ### What a step preserves -/

/-- A reload is still going to be made, or the loop has been left. -/
def Awaits (s : Service) : Prop := s.reload = true ∨ s.place = .callReload ∨ s.Exited

/-- Signals are handled, and a request for a reload is not forgotten. -/
structure Awaiting (s : Service) : Prop where
  handled : s.place.handled = true
  awaits : s.Awaits

/-- Signals are handled, and one of them has asked for a stop. -/
structure Stopping (s : Service) : Prop where
  handled : s.place.handled = true
  stopped : s.running = false

/-- A request is not older than the handlers, and it is there when it is cleared. -/
structure Fresh (s : Service) : Prop where
  unset : s.place = .openLogging ∨ s.place = .installHandlers → s.reload = false
  set : s.place = .clearReload → s.reload = true

/-- The reloads that have been asked for and not been begun. -/
def owed (s : Service) : ℕ :=
  if s.place.handled = true then s.reload.toNat + s.place.reloadsNext else 0

variable {s₀ s t : Service} {e : Event} {events before after : List Event}

theorem signalHandler_place (signal : Signal) (s : Service) :
    (signalHandler signal s).place = s.place := by
  cases signal <;> rfl

theorem signalHandler_of_ne_hup {signal : Signal} (h : signal ≠ .hup) (s : Service) :
    signalHandler signal s = { s with running := false } := by
  cases signal with
  | hup => exact absurd rfl h
  | term => rfl
  | int => rfl

theorem Step.handled (h : Step s e t) (hs : s.place.handled = true) :
    t.place.handled = true := by
  cases h with
  | signal signal _ => cases signal <;> exact hs
  | openLoggingFails => exact hs
  | installHandlersFails => exact hs
  | _ => first | rfl | exact hs

theorem Step.awaiting (h : Step s e t) (he : e ≠ .reload) (hs : s.Awaiting) : t.Awaiting := by
  refine ⟨h.handled hs.handled, ?_⟩
  have hawaits := hs.awaits
  cases h with
  | callReload => exact absurd rfl he
  | setReload => exact absurd hs.handled Bool.false_ne_true
  | clearReload => exact .inr (.inl rfl)
  | noReloadNeeded => simp [Awaits, Exited] at hawaits
  | signal signal _ =>
      cases signal with
      | hup => exact .inl rfl
      | term => exact hawaits
      | int => exact hawaits
  | _ => simp_all [Awaits, Exited]

theorem Step.loopsBefore (h : Step s e t) (he : e ≠ .reload) (hs : s.Awaiting) :
    (if e = .loop then 1 else 0) + t.place.loopsBefore ≤ s.place.loopsBefore := by
  have hawaits := hs.awaits
  cases h with
  | callReload => exact absurd rfl he
  | setReload => exact absurd hs.handled Bool.false_ne_true
  | noReloadNeeded => simp [Awaits, Exited] at hawaits
  | signal signal _ => simp [signalHandler_place]
  | _ => simp [Place.loopsBefore]

/-- Once a stop has been asked for, the places from the test of `g_running` on are passed
at most once. -/
theorem Step.stopping (h : Step s e t) (hs : s.Stopping) :
    t.Stopping ∧
      (if e = .reload then 1 else 0) + t.place.reloadsLeft ≤ s.place.reloadsLeft ∧
      (if e = .loop then 1 else 0) + t.place.loopsLeft ≤ s.place.loopsLeft := by
  have hhandled := hs.handled
  have hstopped := hs.stopped
  refine ⟨⟨h.handled hhandled, ?_⟩, ?_⟩
  · cases h with
    | setRunning => exact absurd hhandled Bool.false_ne_true
    | signal signal _ =>
        cases signal with
        | hup => exact hstopped
        | term => rfl
        | int => rfl
    | _ => exact hstopped
  · cases h with
    | enterLoop => nomatch hstopped
    | signal signal _ => simp [signalHandler_place]
    | _ => simp [Place.reloadsLeft, Place.loopsLeft]

/-- The reloads that are owed and those that are begun have been asked for. -/
theorem Step.fresh (h : Step s e t) (hs : s.Fresh) :
    t.Fresh ∧ (if e = .reload then 1 else 0) + t.owed ≤
      (if e = .signal .hup then 1 else 0) + s.owed := by
  have hunset := hs.unset
  have hset := hs.set
  cases h with
  | callReload =>
      refine ⟨⟨by simp, by simp⟩, ?_⟩
      simp [owed, Place.handled, Place.reloadsNext, Nat.add_comm]
  | signal signal hhandled =>
      have hplace := signalHandler_place signal s
      cases signal with
      | hup =>
          have howed : (signalHandler .hup s).owed ≤ 1 + s.owed := by
            simp only [owed, hhandled, if_true, signalHandler, Bool.toNat_true]
            omega
          refine ⟨⟨?_, fun _ => rfl⟩, ?_⟩
          · rw [hplace]
            rintro (hplace | hplace)
            · simp [hplace, Place.handled] at hhandled
            · simp [hplace, Place.handled] at hhandled
          · simpa using howed
      | term => exact ⟨⟨hunset, hset⟩, Nat.le_refl _⟩
      | int => exact ⟨⟨hunset, hset⟩, Nat.le_refl _⟩
  | _ =>
      exact ⟨⟨by simp_all, by simp_all⟩, by simp_all [owed, Place.handled, Place.reloadsNext]⟩

/-! ### What a run preserves -/

theorem awaiting_of_run (hrun : Run Step s events t) (hs : s.Awaiting)
    (hreload : Event.reload ∉ events) : t.Awaiting ∧ events.count .loop ≤ 1 := by
  have hlabels (e : Event) (he : e ∈ events) : e ≠ .reload := fun h => hreload (h ▸ he)
  refine ⟨hrun.invariant (fun _ _ _ he hs h => h.awaiting he hs) hlabels hs, ?_⟩
  refine Nat.le_trans ?_ s.place.loopsBefore_le
  exact hrun.countP_le (P := Awaiting) (fun s => s.place.loopsBefore)
    (fun s e t he hs h => ⟨h.awaiting he hs, by simpa using h.loopsBefore he hs⟩) hlabels hs

theorem stopping_of_run (hrun : Run Step s events t) (hs : s.Stopping) :
    events.count .reload ≤ 1 ∧ events.count .loop ≤ 1 := by
  have hlabels (e : Event) (_ : e ∈ events) : True := trivial
  refine ⟨Nat.le_trans ?_ s.place.reloadsLeft_le, Nat.le_trans ?_ s.place.loopsLeft_le⟩
  · exact hrun.countP_le (P := Stopping) (fun s => s.place.reloadsLeft)
      (fun s e t _ hs h => ⟨(h.stopping hs).1, by simpa using (h.stopping hs).2.1⟩) hlabels hs
  · exact hrun.countP_le (P := Stopping) (fun s => s.place.loopsLeft)
      (fun s e t _ hs h => ⟨(h.stopping hs).1, by simpa using (h.stopping hs).2.2⟩) hlabels hs

theorem count_reload_le (hstart : s₀.place = .setRunning) (hrun : Run Step s₀ events s) :
    events.count .reload ≤ events.count (.signal .hup) := by
  have hfresh : s₀.Fresh := ⟨by simp [hstart], by simp [hstart]⟩
  have howed : s₀.owed = 0 := by simp [owed, hstart, Place.handled]
  have hsum := hrun.countP_add_le (P := Fresh) (p := (· == .reload)) (q := (· == .signal .hup))
    owed (Q := fun _ => True) (fun s e t _ hs h => by simpa using h.fresh hs)
    (fun _ _ => trivial) hfresh
  rw [howed, Nat.add_zero] at hsum
  exact Nat.le_trans (Nat.le_add_right _ _) hsum.2

/-- No signal is lost: a request for a reload is answered by a later `reload()`, unless one
is still going to be made or the loop has been left; there are no more reloads than
requests; and after a stop at most one more reload and one more loop are begun. -/
theorem no_signal_lost (hstart : s₀.place = .setRunning) (hrun : Run Step s₀ events s) :
    (∀ before after, events = before ++ .signal .hup :: after →
        Event.reload ∈ after ∨ s.reload = true ∨ s.place = .callReload ∨ s.Exited) ∧
      events.count .reload ≤ events.count (.signal .hup) ∧
      ∀ before signal after, signal ≠ Signal.hup → events = before ++ .signal signal :: after →
        after.count .reload ≤ 1 ∧ after.count .loop ≤ 1 := by
  refine ⟨?_, count_reload_le hstart hrun, ?_⟩
  · rintro before after rfl
    by_cases hreload : Event.reload ∈ after
    · exact .inl hreload
    obtain ⟨t, t', -, hstep, hafter⟩ := hrun.of_append_cons
    cases hstep with
    | signal _ hhandled =>
        have hawaiting : (signalHandler .hup t).Awaiting := ⟨hhandled, .inl rfl⟩
        exact .inr (awaiting_of_run hafter hawaiting hreload).1.awaits
  · rintro before signal after hsignal rfl
    obtain ⟨t, t', -, hstep, hafter⟩ := hrun.of_append_cons
    cases hstep with
    | signal _ hhandled =>
        rw [signalHandler_of_ne_hup hsignal] at hafter
        exact stopping_of_run hafter ⟨hhandled, rfl⟩

/-- A run with a SIGHUP between the test of `g_reload` and its being cleared. -/
theorem no_signal_lost_cleared :
    let events : List Event :=
      [.quiet, .quiet, .quiet, .quiet, .quiet, .signal .hup, .quiet, .quiet, .signal .hup,
        .quiet]
    let s : Service := ⟨true, false, .callReload⟩
    (∀ before after, events = before ++ .signal .hup :: after →
        Event.reload ∈ after ∨ s.reload = true ∨ s.place = .callReload ∨ s.Exited) ∧
      events.count .reload ≤ events.count (.signal .hup) ∧
      ∀ before signal after, signal ≠ Signal.hup → events = before ++ .signal signal :: after →
        after.count .reload ≤ 1 ∧ after.count .loop ≤ 1 :=
  @no_signal_lost ⟨false, true, .setRunning⟩ _ _ rfl
    (.cons .setRunning <| .cons .setReload <| .cons .openLogging <| .cons .installHandlers <|
      .cons .announce <| .cons (.signal .hup rfl) <| .cons .enterLoop <| .cons .reloadNeeded <|
      .cons (.signal .hup rfl) <| .cons .clearReload .nil)

end Service

end Bossa.Core
