import Bossa.Runtime.Accounting

/-!
# Reloading the configuration

A successful `configure` builds a new ring buffer; the samples of the old one are
discarded. Over any run of ticks and reloads the samples that were read are those
in the buffer, the dropped ones, those that flushes posted, and those that were in
the buffer at a reload.
-/

namespace Bossa.Runtime

open Bossa.Core Telemetry Storage Sync
open Ledger (Entry Posts)

/-- A step of the service: a tick, or a reload that succeeds, with the states before
and after it. -/
inductive Step where
  | tick (t : Tick)
  | reload (before after : TelemetryRuntime) (input : ConfigureInput) (config : Config)

def Event.flushedSamples : Event → List StoredSample
  | .post .flush _ exchange => exchange.samples
  | _ => []

namespace Step

/-- The transition that a step is. -/
inductive Holds : TelemetryRuntime → Step → TelemetryRuntime → Prop
  | tick {s s' : TelemetryRuntime} {t : Tick} (h : t.Step s s') : Holds s (tick t) s'
  | reload {s s' : TelemetryRuntime} {input : ConfigureInput} {config : Config}
      (h : s.configure input config = (true, s')) :
      Holds s (reload s s' input config) s'

/-- The events of a step. -/
def events : Step → List Event
  | tick t => t.events
  | reload _ _ _ _ => []

def discardedSamples : Step → List StoredSample
  | tick _ => []
  | reload before _ _ _ => before.residents

def entries : Step → List (Entry Place ℕ)
  | tick t => journal t.events
  | reload before after _ _ =>
      [.transfer .buffered .discarded (origins before.residents),
        .transfer .pending .closed (rowOrigins before.store.rows),
        .deposit .pending (rowOrigins after.store.rows)]

end Step

/-- A run of ticks and reloads. -/
abbrev Steps : TelemetryRuntime → List Step → TelemetryRuntime → Prop :=
  Transition.Run Step.Holds

theorem residents_configure {input : ConfigureInput} {config : Config}
    {s s' : TelemetryRuntime} (h : s.configure input config = (true, s')) :
    s'.residents = [] := by
  obtain ⟨-, hbuffer, -, -⟩ := TelemetryRuntime.configure_spec h
  simp [TelemetryRuntime.residents, hbuffer]

theorem Step.posts {s s' : TelemetryRuntime} {step : Step} {h : Ledger Place ℕ}
    (hwired : s.Wired) (hbooks : s.Booked h) (hstep : step.Holds s s') :
    ∃ h', Posts h step.entries h' ∧ s'.Booked h' := by
  cases hstep with
  | tick htick => exact TelemetryRuntime.tick_posts hwired hbooks htick.2
  | reload hconfigure =>
      have hdiscard := Posts.transfer .discarded hbooks.buffered.ge
      have hpending : rowOrigins s.store.rows ≤
          h.post (.transfer .buffered .discarded (origins s.residents)) .pending := by
        rw [Ledger.post_transfer_of_ne _ _ (by decide) (by decide), hbooks.pending]
      have hclose := Posts.transfer .closed hpending
      have hopen := Posts.deposit ((h.post (.transfer .buffered .discarded
        (origins s.residents))).post (.transfer .pending .closed
        (rowOrigins s.store.rows))) .pending (rowOrigins s'.store.rows)
      refine ⟨_, (hdiscard.append hclose).append hopen, ?_, ?_⟩
      · rw [Ledger.post_deposit_of_ne _ _ (by decide),
          Ledger.post_transfer_of_ne _ _ (by decide) (by decide),
          Ledger.post_transfer_source _ _ (by decide), hbooks.buffered, tsub_self,
          residents_configure hconfigure]
        rfl
      · rw [Ledger.post_deposit, Ledger.post_transfer_source _ _ (by decide),
          Ledger.post_transfer_of_ne _ _ (by decide) (by decide), hbooks.pending, tsub_self,
          zero_add]

theorem Step.wired {s s' : TelemetryRuntime} {step : Step} (hwired : s.Wired)
    (hstep : step.Holds s s') : s'.Wired := by
  cases hstep with
  | tick htick => exact (TelemetryRuntime.tick_frame htick.2).wired hwired
  | reload hconfigure => exact TelemetryRuntime.configure_wired hconfigure

theorem Steps.posts {s s' : TelemetryRuntime} {steps : List Step} {h : Ledger Place ℕ}
    (hwired : s.Wired) (hbooks : s.Booked h) (hrun : Steps s steps s') :
    s'.Wired ∧ ∃ h', Posts h (steps.flatMap Step.entries) h' ∧ s'.Booked h' := by
  induction hrun with
  | nil => exact ⟨hwired, h, .nil h, hbooks⟩
  | snoc _ hstep ih =>
      obtain ⟨hwired', h', hposts, hbooks'⟩ := ih
      obtain ⟨h'', hlast, hbooks''⟩ := Step.posts hwired' hbooks' hstep
      refine ⟨Step.wired hwired' hstep, h'', ?_, hbooks''⟩
      rw [List.flatMap_append, List.flatMap_cons, List.flatMap_nil, List.append_nil]
      exact hposts.append hlast

theorem inflow_buffered_journal (events : List Event) :
    Entry.totalInflow .buffered (journal events) = readOrigins events := by
  induction events with
  | nil => rfl
  | cons e events ih =>
      rw [journal_cons, Entry.totalInflow_append, ih, readOrigins_cons]
      rcases e with _ | _ | ⟨_ | _, _, exchange⟩ | ⟨⟨_, _ | _⟩ | _ | _ | ⟨_, _ | _⟩⟩ <;>
        simp [Event.entries, statementEntries, Entry.inflow, Event.readSamples]
      cases HttpUploader.interpretResponse exchange.response <;> simp [destination]

theorem outflow_buffered_journal (events : List Event) :
    Entry.totalOutflow .buffered (journal events) =
      origins (events.flatMap Event.droppedSamples) +
        origins (events.flatMap Event.flushedSamples) := by
  induction events with
  | nil => rfl
  | cons e events ih =>
      rw [journal_cons, Entry.totalOutflow_append, ih, List.flatMap_cons, List.flatMap_cons,
        origins_append, origins_append]
      rcases e with _ | _ | ⟨_ | _⟩ | ⟨⟨_, _ | _⟩ | _ | _ | ⟨_, _ | _⟩⟩ <;>
        simp [Event.entries, statementEntries, Entry.outflow, Event.droppedSamples,
          Event.flushedSamples]
      exact add_left_comm _ _ _

theorem inflow_buffered_steps (steps : List Step) :
    Entry.totalInflow .buffered (steps.flatMap Step.entries) =
      readOrigins (steps.flatMap Step.events) := by
  induction steps with
  | nil => rfl
  | cons step steps ih =>
      rw [List.flatMap_cons, Entry.totalInflow_append, ih, List.flatMap_cons]
      cases step with
      | tick t => simp [Step.entries, Step.events, inflow_buffered_journal, readOrigins]
      | reload => simp [Step.entries, Step.events, Entry.inflow]

theorem outflow_buffered_steps (steps : List Step) :
    Entry.totalOutflow .buffered (steps.flatMap Step.entries) =
      origins ((steps.flatMap Step.events).flatMap Event.droppedSamples) +
        origins ((steps.flatMap Step.events).flatMap Event.flushedSamples) +
        origins (steps.flatMap Step.discardedSamples) := by
  induction steps with
  | nil => rfl
  | cons step steps ih =>
      rw [List.flatMap_cons, Entry.totalOutflow_append, ih]
      cases step with
      | tick t =>
          simp [Step.entries, Step.events, Step.discardedSamples, outflow_buffered_journal]
          abel
      | reload =>
          simp [Step.entries, Step.events, Step.discardedSamples, Entry.outflow]
          abel

/-- Over any run of ticks and successful reloads, the samples that were read are
exactly those in the ring buffer, the dropped ones, those that flushes posted and
those that were in the buffer at a reload. A tick counts what it drops, and a reload
leaves an empty buffer. -/
theorem samples_kept_or_discarded {input : ConfigureInput} {config : Config}
    {s₀ s s' : TelemetryRuntime} {steps : List Step}
    (hconfigure : s₀.configure input config = (true, s)) (hrun : Steps s steps s') :
    readOrigins (steps.flatMap Step.events) =
        origins s'.residents +
          (origins ((steps.flatMap Step.events).flatMap Event.droppedSamples) +
            origins ((steps.flatMap Step.events).flatMap Event.flushedSamples) +
            origins (steps.flatMap Step.discardedSamples)) ∧
      (∀ t after, Step.tick t ∈ steps → t.before.tick t.input = .ok (t.events, after) →
        after.dropCount =
          t.before.dropCount + (t.events.flatMap Event.droppedSamples).length) ∧
      ∀ before after input config, Step.reload before after input config ∈ steps →
        after.residents = [] := by
  obtain ⟨-, h', hposts, hbooks⟩ :=
    hrun.posts (TelemetryRuntime.configure_wired hconfigure) (booked_openingBooks s)
  refine ⟨?_, fun t after _ htick => TelemetryRuntime.tick_dropCount htick, ?_⟩
  · have hbalance := hposts.balance .buffered
    have hempty : openingBooks s .buffered = 0 := by
      rw [openingBooks, residents_configure hconfigure, origins_nil]
    rw [hbooks.buffered, hempty, zero_add, inflow_buffered_steps,
      outflow_buffered_steps] at hbalance
    exact hbalance.symm
  · intro before after input config hmem
    have hholds : ∃ t : TelemetryRuntime, t.configure input config = (true, after) := by
      clear hposts hbooks
      induction hrun with
      | nil => cases hmem
      | snoc _ hstep ih =>
          rcases List.mem_append.mp hmem with hmem | hmem
          · exact ih hmem
          · cases List.mem_singleton.mp hmem
            cases hstep with
            | reload hreload => exact ⟨_, hreload⟩
    obtain ⟨t, hreload⟩ := hholds
    exact residents_configure hreload

theorem Ticks.steps {s s' : TelemetryRuntime} {ticks : List Tick} (hrun : Ticks s ticks s') :
    Steps s (ticks.map Step.tick) s' := by
  induction hrun with
  | nil => exact .nil
  | snoc _ hstep ih =>
      rw [List.map_append]
      exact ih.snoc (.tick hstep)

/-- A tick that buffers a sample, and a reload. -/
theorem samples_kept_or_discarded_one_tick :
    ∃ steps s', Steps (deployed "2" "remote") steps s' ∧
      steps.flatMap Step.discardedSamples ≠ [] ∧
      readOrigins (steps.flatMap Step.events) =
        origins s'.residents +
          (origins ((steps.flatMap Step.events).flatMap Event.droppedSamples) +
            origins ((steps.flatMap Step.events).flatMap Event.flushedSamples) +
            origins (steps.flatMap Step.discardedSamples)) := by
  obtain ⟨ticks, s, hrun, hcheck⟩ := exists_ticks (deployed "2" "remote")
    [deploymentTick 1 (some 1) 202 202]
    (fun _ s => decide ((s.configure deploymentInput (deploymentConfig "2" "remote")).1 = true ∧
      s.residents ≠ []))
    (by decide +kernel)
  obtain ⟨hok, hresidents⟩ := of_decide_eq_true hcheck
  have hreload : s.configure deploymentInput (deploymentConfig "2" "remote") =
      (true, (s.configure deploymentInput (deploymentConfig "2" "remote")).2) := by
    rw [← hok]
  have hsteps := hrun.steps.snoc (.reload hreload)
  refine ⟨_, _, hsteps, ?_,
    (samples_kept_or_discarded (configure_deployed (by decide +kernel)) hsteps).1⟩
  simp [Step.discardedSamples, hresidents]

/-- A reload with a sample in the buffer: the sample is nowhere afterwards. -/
theorem not_kept_one_buffered :
    ¬ ∀ (config config' : Config) (input input' : ConfigureInput)
      (s₀ s s' s'' : TelemetryRuntime) (ticks : List Tick),
      s₀.configure input config = (true, s) → Ticks s ticks s' →
      s'.configure input' config' = (true, s'') →
      ∀ x ∈ s'.residents, x.origin ∈ origins s''.residents ∨
        x.origin ∈ rowOrigins s''.store.rows ∨
        x.origin ∈ origins ((eventsOf ticks).flatMap Event.postedSamples) := by
  intro hclaim
  obtain ⟨ticks, s', hrun, hcheck⟩ := exists_ticks (deployed "2" "remote")
    [deploymentTick 1 (some 1) 202 202]
    (fun ticks s => decide (
      (s.configure deploymentInput (deploymentConfig "2" "remote")).1 = true ∧
      ¬ ∀ x ∈ s.residents,
        x.origin ∈ origins
          (s.configure deploymentInput (deploymentConfig "2" "remote")).2.residents ∨
        x.origin ∈ rowOrigins
          (s.configure deploymentInput (deploymentConfig "2" "remote")).2.store.rows ∨
        x.origin ∈ origins ((eventsOf ticks).flatMap Event.postedSamples)))
    (by decide +kernel)
  obtain ⟨hok, hlost⟩ := of_decide_eq_true hcheck
  have hreload : s'.configure deploymentInput (deploymentConfig "2" "remote") =
      (true, (s'.configure deploymentInput (deploymentConfig "2" "remote")).2) := by
    rw [← hok]
  exact hlost (hclaim _ _ _ _ _ _ _ _ _ (configure_deployed (by decide +kernel)) hrun hreload)

end Bossa.Runtime
