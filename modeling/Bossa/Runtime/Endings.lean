import Bossa.Runtime.Texts

/-!
# Ticks that end by an exception

A flush takes its batch off the buffer before it builds the payload, and building throws
when a text of the batch is not valid UTF-8. The samples in hand are then gone. A retry
that throws loses nothing. Over runs of ticks that end either way the samples are
accounted for exactly when no flush takes such a batch.
-/

namespace Bossa.Runtime

open Bossa.Core Telemetry Storage Sync
open Ledger (Entry Posts)

namespace TelemetryRuntime

/-- How a tick ends, with its events, the samples that are lost and the runtime that it
leaves: it returns, its flush throws or its retry throws. -/
inductive Ends (input : TickInput) (s : TelemetryRuntime) :
    List Event → List StoredSample → TelemetryRuntime → Prop
  | returned {events : List Event} {s' : TelemetryRuntime}
      (htick : s.tick input = .ok (events, s')) : Ends input s events [] s'
  | flushThrew {events : List Event} {polled : TelemetryRuntime} {e : Abort}
      (hchannels : s.channels.entries ≠ []) (hpoll : s.pollDue input = .ok (events, polled))
      (hflush : polled.maybeFlush input.flush = .error e) :
      Ends input s events polled.drained.1 polled.drained.2
  -- the rows have been counted and selected before the payload of a retry is built
  | retryThrew {events : List Event} {flushed : TelemetryRuntime} {e : Abort}
      (hchannels : s.channels.entries ≠ [])
      (hfirst : s.pollAndFlush input = .ok (events, flushed))
      (hretry : flushed.maybeRetry input.countFault input.retry = .error e) :
      Ends input s
        (events ++ [.statement (.count !input.countFault),
          .statement (.select input.retry.faults.select.isNone)]) [] flushed

/-- The flush of a tick, if one is due after the polls, takes a batch whose payload can be
built. -/
def Builds (input : TickInput) (s : TelemetryRuntime) : Prop :=
  s.channels.entries ≠ [] → ∀ r ∈ (s.pollDue input).toOption, r.2.FlushBuilds input.flush.now

instance (input : TickInput) (s : TelemetryRuntime) : Decidable (s.Builds input) :=
  inferInstanceAs (Decidable (_ → ∀ r ∈ (s.pollDue input).toOption, _))

variable {s s' : TelemetryRuntime} {input : TickInput} {events : List Event}
  {lost : List StoredSample}

@[simp] theorem dropCount_drained (s : TelemetryRuntime) :
    s.drained.2.dropCount = s.dropCount := by
  unfold drained
  split
  · rfl
  · next buffer hb => simp [dropCount, hb, drain_dropCount]

/-- A tick whose polls come to an end does so as well. -/
theorem exists_ends {r : List Event × TelemetryRuntime} (hpoll : s.pollDue input = .ok r) :
    ∃ events lost s', s.Ends input events lost s' := by
  by_cases hchannels : s.channels.entries = []
  · exact ⟨[], [], s, .returned (by rw [tick, if_pos hchannels]; rfl)⟩
  · cases hflush : r.2.maybeFlush input.flush with
    | error e => exact ⟨_, _, _, .flushThrew hchannels hpoll hflush⟩
    | ok flushed =>
        cases hretry : flushed.2.maybeRetry input.countFault input.retry with
        | error e =>
            exact ⟨_, _, _, .retryThrew hchannels
              (pollAndFlush_eq_ok_iff.mpr ⟨_, _, _, hpoll, hflush, rfl⟩) hretry⟩
        | ok retried =>
            have htick : s.tick input = .ok (r.1 ++ flushed.1 ++ retried.1, retried.2) := by
              rw [tick, if_neg hchannels]
              exact Abort.bind_eq_ok_iff.mpr ⟨_, hpoll, Abort.bind_eq_ok_iff.mpr ⟨_, hflush,
                Abort.bind_eq_ok_iff.mpr ⟨_, hretry, rfl⟩⟩⟩
            exact ⟨_, _, _, .returned htick⟩

namespace Ends

theorem frame (h : s.Ends input events lost s') : Frame s s' := by
  cases h with
  | returned htick => exact tick_frame htick
  | @flushThrew _ polled _ _ hpoll _ =>
      exact (pollDue_frame hpoll).toFrame.trans polled.drained_frame
  | retryThrew _ hfirst _ => exact pollAndFlush_frame hfirst

/-- A tick loses samples exactly when the payload of its flush cannot be built. -/
theorem lost_eq_nil_iff (h : s.Ends input events lost s') : lost = [] ↔ s.Builds input := by
  cases h with
  | returned htick =>
      refine iff_of_true rfl fun hchannels r hr => ?_
      rcases tick_cases htick with
        ⟨hnil, -⟩ | ⟨-, _, polled, _, _, _, hpoll, hflush, -⟩
      · exact absurd hnil hchannels
      · rw [hpoll] at hr
        cases hr
        exact maybeFlush_isOk_iff.mp ⟨_, hflush⟩
  | @flushThrew _ polled e hchannels hpoll hflush =>
      refine iff_of_false (drained_ne_nil hflush) fun hbuilds => ?_
      obtain ⟨r, hr⟩ := maybeFlush_isOk_iff.mpr
        (hbuilds hchannels (_, polled) (by rw [hpoll]; rfl))
      cases hr.symm.trans hflush
  | retryThrew _ hfirst _ =>
      refine iff_of_true rfl fun _ r hr => ?_
      obtain ⟨_, _, _, hpoll, hflush, -⟩ := pollAndFlush_eq_ok_iff.mp hfirst
      rw [hpoll] at hr
      cases hr
      exact maybeFlush_isOk_iff.mp ⟨_, hflush⟩

theorem dropCount (h : s.Ends input events lost s') :
    s'.dropCount = s.dropCount + (events.flatMap Event.droppedSamples).length := by
  cases h with
  | returned htick => exact tick_dropCount htick
  | flushThrew _ hpoll _ => rw [dropCount_drained, pollDue_dropCount hpoll]
  | retryThrew _ hfirst _ =>
      obtain ⟨pollEvents, _, _, hpoll, hflush, rfl⟩ := pollAndFlush_eq_ok_iff.mp hfirst
      rw [maybeFlush_dropCount hflush, pollDue_dropCount hpoll, List.flatMap_append,
        List.flatMap_append, maybeFlush_flatMap (fun _ _ _ => rfl) (fun _ => rfl) hflush,
        List.append_nil]
      simp [Event.droppedSamples]

end Ends

end TelemetryRuntime

open TelemetryRuntime

/-- The origins of the samples that have left the runtime, as the events tell. -/
def departed (events : List Event) : Multiset ℕ :=
  origins (events.flatMap Event.droppedSamples) +
    (origins (events.flatMap Event.acceptedSamples) +
      origins (events.flatMap Event.refusedSamples))

theorem departed_append (events events' : List Event) :
    departed (events ++ events') = departed events + departed events' := by
  simp only [departed, List.flatMap_append, origins_append]
  ac_rfl

theorem sum_whereabouts_eq (events : List Event) (s : TelemetryRuntime) :
    ∑ w, whereabouts events s w =
      origins s.residents + (rowOrigins s.store.rows + departed events) := by
  simp only [sum_whereabouts, whereabouts, departed]
  ac_rfl

namespace TelemetryRuntime

variable {s s' : TelemetryRuntime} {input : TickInput} {events : List Event}
  {lost : List StoredSample}

theorem pollAndFlush_settled (hwired : s.Wired) (hopen : s.storeOpen = true)
    (hok : ∀ e ∈ events, e.statementOk = true) (h : s.pollAndFlush input = .ok (events, s')) :
    Settled events := by
  obtain ⟨pollEvents, polled, flushEvents, hpoll, hflush, rfl⟩ := pollAndFlush_eq_ok_iff.mp h
  have hframe := (pollDue_frame hpoll).toFrame
  rw [List.forall_mem_append] at hok
  exact (settled_of_isPoll (pollDue_isPoll hpoll)).append
    (maybeFlush_settled (hframe.wired hwired) (hframe.storeOpen.trans hopen) hok.2 hflush)

theorem pollAndFlush_posts {h : Ledger Place ℕ} (hwired : s.Wired) (hbooks : s.Booked h)
    (hfirst : s.pollAndFlush input = .ok (events, s')) :
    ∃ h', Posts h (journal events) h' ∧ s'.Booked h' := by
  obtain ⟨pollEvents, polled, flushEvents, hpoll, hflush, rfl⟩ :=
    pollAndFlush_eq_ok_iff.mp hfirst
  obtain ⟨h₁, hposts₁, hbooks₁⟩ := pollDue_posts hwired.buffer_isSome hbooks hpoll
  obtain ⟨h₂, hposts₂, hbooks₂⟩ := maybeFlush_posts hbooks₁ hflush
  exact ⟨h₂, by simpa using hposts₁.append hposts₂, hbooks₂⟩

/-- A tick leaves in the buffer what was there or what the drivers returned. -/
theorem Ends.forall_residents {P : StoredSample → Prop} (hs : ∀ x ∈ s.residents, P x)
    (hreads : ∀ i, ∀ sample ∈ (input.reads i).samples, ∀ p, P (.fromSample sample p))
    (h : s.Ends input events lost s') : ∀ x ∈ s'.residents, P x := by
  have hfirst : ∀ {events flushed}, s.pollAndFlush input = .ok (events, flushed) →
      ∀ x ∈ flushed.residents, P x := by
    intro events flushed hfirst x hx
    obtain ⟨_, _, _, hpoll, hflush, -⟩ := pollAndFlush_eq_ok_iff.mp hfirst
    exact forall_residents_pollDue hs hreads hpoll x (residents_maybeFlush_subset hflush hx)
  cases h with
  | returned htick =>
      rcases tick_stages htick with ⟨-, -, rfl⟩ | ⟨-, _, flushed, _, hfirst', hretry, -⟩
      · exact hs
      · have hsame : s'.residents = flushed.residents := by
          rcases maybeRetry_cases hretry with ⟨-, rfl⟩ | ⟨_, attempt, -, -, -, -, rfl⟩
          · rfl
          · cases attempt.result <;> rfl
        rw [hsame]
        exact hfirst hfirst'
  | @flushThrew _ polled _ _ hpoll _ =>
      intro x hx
      exact forall_residents_pollDue hs hreads hpoll x (polled.residents_drained_subset.2 hx)
  | retryThrew _ hfirst' _ => exact hfirst hfirst'

/-- What a tick reads or finds in the buffer and the table is in one place at its end, or
lost. -/
theorem Ends.balance (hwired : s.Wired) (hopen : s.storeOpen = true)
    (hok : ∀ e ∈ events, e.statementOk = true) (h : s.Ends input events lost s') :
    ∑ w, whereabouts events s' w + origins lost =
      origins s.residents + (rowOrigins s.store.rows + readOrigins events) := by
  cases h with
  | returned htick =>
      rw [origins_nil, add_zero]
      rcases tick_stages htick with
        ⟨-, rfl, rfl⟩ | ⟨-, firstEvents, flushed, retryEvents, hfirst, hretry, rfl⟩
      · simp [sum_whereabouts_eq, departed, readOrigins]
      · obtain ⟨h', hposts, hbooks⟩ := tick_posts hwired (booked_openingBooks s) htick
        rw [List.forall_mem_append] at hok
        exact sum_whereabouts_of_posts hposts hbooks
          ((pollAndFlush_settled hwired hopen hok.1 hfirst).append
            (maybeRetry_settled ((pollAndFlush_frame hfirst).wired hwired) hok.2 hretry))
  | @flushThrew _ polled _ _ hpoll _ =>
      obtain ⟨h', hposts, hbooks⟩ :=
        pollDue_posts hwired.buffer_isSome (booked_openingBooks s) hpoll
      have hsum := sum_whereabouts_of_posts hposts hbooks
        (settled_of_isPoll (pollDue_isPoll hpoll))
      -- the batch left the buffer and went nowhere
      rw [← hsum, sum_whereabouts_eq, sum_whereabouts_eq, store_drained,
        ← polled.origins_drained]
      ac_rfl
  | retryThrew _ hfirst _ =>
      rw [List.forall_mem_append] at hok
      obtain ⟨h', hposts, hbooks⟩ :=
        pollAndFlush_posts hwired (booked_openingBooks s) hfirst
      have hsum := sum_whereabouts_of_posts hposts hbooks
        (pollAndFlush_settled hwired hopen hok.1 hfirst)
      simpa [sum_whereabouts_eq, departed_append, readOrigins_append, departed, readOrigins,
        Event.droppedSamples, Event.acceptedSamples, Event.refusedSamples,
        Event.readSamples] using hsum

end TelemetryRuntime

/-- A tick that ended, by returning or not: the state it started from, its input, its events
and the samples that it lost. -/
structure Ending where
  before : TelemetryRuntime
  input : TickInput
  events : List Event
  lost : List StoredSample

/-- The transition that a tick with its ending is. -/
def Ending.Step (s : TelemetryRuntime) (t : Ending) (s' : TelemetryRuntime) : Prop :=
  t.before = s ∧ s.Ends t.input t.events t.lost s'

/-- A run of ticks that end in any way. -/
abbrev Endings : TelemetryRuntime → List Ending → TelemetryRuntime → Prop :=
  Transition.Run Ending.Step

def endingEvents (endings : List Ending) : List Event := endings.flatMap Ending.events

@[simp] theorem endingEvents_append (endings endings' : List Ending) :
    endingEvents (endings ++ endings') = endingEvents endings ++ endingEvents endings' := by
  simp [endingEvents]

@[simp] theorem endingEvents_singleton (t : Ending) : endingEvents [t] = t.events := by
  simp [endingEvents]

namespace Endings

variable {s s' : TelemetryRuntime} {endings : List Ending}

theorem frame (hrun : Endings s endings s') : Frame s s' := by
  induction hrun with
  | nil => exact .refl s
  | snoc _ hstep ih => exact ih.trans hstep.2.frame

theorem mem (hrun : Endings s endings s') {t : Ending} (ht : t ∈ endings) :
    ∃ u, t.before.Ends t.input t.events t.lost u := by
  obtain ⟨before, after, rfl⟩ := List.append_of_mem ht
  obtain ⟨u, u', -, ⟨rfl, hends⟩, -⟩ := hrun.of_append_cons
  exact ⟨u', hends⟩

theorem dropCount_eq (hrun : Endings s endings s') :
    s'.dropCount =
      s.dropCount + ((endingEvents endings).flatMap Event.droppedSamples).length := by
  induction hrun with
  | nil => rfl
  | snoc _ hstep ih =>
      rw [hstep.2.dropCount, ih, endingEvents_append, endingEvents_singleton,
        List.flatMap_append, List.length_append, add_assoc]

/-- What a run reads or finds in the buffer and the table is in one place at its end, or
lost. -/
theorem balance (hwired : s.Wired) (hopen : s.storeOpen = true) (hrun : Endings s endings s')
    (hok : ∀ e ∈ endingEvents endings, e.statementOk = true) :
    ∑ w, whereabouts (endingEvents endings) s' w + origins (endings.flatMap Ending.lost) =
      origins s.residents +
        (rowOrigins s.store.rows + readOrigins (endingEvents endings)) := by
  induction hrun with
  | nil => simp [sum_whereabouts_eq, departed, readOrigins, endingEvents]
  | @snoc t u endings i hinit hstep ih =>
      rw [endingEvents_append, endingEvents_singleton, List.forall_mem_append] at hok
      have hbefore := ih hok.1
      have hframe := frame hinit
      have hlast := hstep.2.balance (hframe.wired hwired) (hframe.storeOpen.trans hopen) hok.2
      rw [sum_whereabouts_eq] at hbefore hlast
      rw [sum_whereabouts_eq, endingEvents_append, endingEvents_singleton, departed_append,
        readOrigins_append, List.flatMap_append, origins_append]
      set gone := departed (endingEvents endings)
      set missing := origins (endings.flatMap Ending.lost)
      calc _ = gone + missing + (origins u.residents +
              (rowOrigins u.store.rows + departed i.events) + origins i.lost) := by
            simp only [List.flatMap_cons, List.flatMap_nil, List.append_nil]
            ac_rfl
        _ = origins t.residents + (rowOrigins t.store.rows + gone) + missing +
              readOrigins i.events := by
            rw [hlast]
            ac_rfl
        _ = _ := by
            rw [hbefore]
            ac_rfl

theorem of_ticks {ticks : List Tick} (hrun : Ticks s ticks s') :
    Endings s (ticks.map fun t => ⟨t.before, t.input, t.events, []⟩) s' := by
  induction hrun with
  | nil => exact .nil
  | snoc _ hstep ih =>
      rw [List.map_append]
      exact ih.snoc ⟨hstep.1, .returned hstep.2⟩

/-- While the node id and the texts that the drivers return are valid UTF-8, every payload
can be built. -/
theorem builds (hrun : Endings s endings s')
    (hnode : ∀ u ∈ s.uploader, Bytes.validUtf8 u.nodeId = true)
    (hresidents : ∀ x ∈ s.residents, ValidText x)
    (hreads : ∀ t ∈ endings, t.input.ValidTexts) :
    (∀ x ∈ s'.residents, ValidText x) ∧ ∀ t ∈ endings, t.before.Builds t.input := by
  induction hrun with
  | nil => exact ⟨hresidents, fun t ht => by cases ht⟩
  | @snoc t u endings i hinit hstep ih =>
      rw [List.forall_mem_append, List.forall_mem_singleton] at hreads ⊢
      obtain ⟨hvalid, hbuilds⟩ := ih hreads.1
      obtain ⟨hbefore, hends⟩ := hstep
      refine ⟨hends.forall_residents hvalid fun j x hx _ => hreads.2 j x hx, hbuilds, ?_⟩
      rw [hbefore]
      rintro - r hr hdue v hv
      have hpoll : t.pollDue i.input = .ok r := by
        cases hr' : t.pollDue i.input with
        | error e =>
            rw [hr'] at hr
            cases hr
        | ok r' =>
            rw [hr'] at hr
            cases hr
            rfl
      have hpolled := forall_residents_pollDue hvalid (fun j x hx _ => hreads.2 j x hx) hpoll
      refine ⟨hnode v ?_, fun x hx => hpolled x (r.2.residents_drained_subset.1 hx)⟩
      rw [← (frame hinit).uploader, ← (pollDue_frame hpoll).uploader]
      exact hv

end Endings

/-- The accounting for the samples that a run reads or finds in the table: they are the
samples in the ring buffer, in the count of drops, in the table, in accepted POSTs and in
rejected direct uploads, and when they are told apart by their origins, each is in exactly
one of these, once. -/
structure Accounted (s s' : TelemetryRuntime) (events : List Event) : Prop where
  total : ∑ w, whereabouts events s' w = rowOrigins s.store.rows + readOrigins events
  drops : s'.dropCount = (whereabouts events s' .dropped).card
  once : (rowOrigins s.store.rows + readOrigins events).Nodup →
    (∀ o ∈ rowOrigins s.store.rows + readOrigins events, ∃! w, o ∈ whereabouts events s' w) ∧
      ∀ w, (whereabouts events s' w).Nodup

section Accounted

variable {s s' : TelemetryRuntime} {endings : List Ending}

/-- The samples of a run are accounted for exactly when it loses none. -/
theorem Endings.accounted_iff (hwired : s.Wired) (hopen : s.storeOpen = true)
    (hempty : s.residents = []) (hzero : s.dropCount = 0) (hrun : Endings s endings s')
    (hok : ∀ e ∈ endingEvents endings, e.statementOk = true) :
    Accounted s s' (endingEvents endings) ↔ ∀ t ∈ endings, t.lost = [] := by
  have hbalance := hrun.balance hwired hopen hok
  rw [hempty, origins_nil, zero_add] at hbalance
  rw [← List.flatMap_eq_nil_iff]
  constructor
  · intro h
    rw [h.total, add_eq_left] at hbalance
    exact List.map_eq_nil_iff.mp ((Multiset.coe_eq_zero _).mp hbalance)
  · intro hnone
    rw [hnone, origins_nil, add_zero] at hbalance
    refine ⟨hbalance, ?_, fun hnodup => ?_⟩
    · rw [hrun.dropCount_eq, hzero, zero_add]
      simp [whereabouts, origins]
    · rw [← hbalance] at hnodup ⊢
      exact ⟨fun o ho => Ledger.existsUnique_mem hnodup ho,
        fun w => Ledger.nodup_place hnodup w⟩

/-- Exact accounting: at the end of any number of ticks whose SQLite statements succeed, each
of which returns or throws, the samples are accounted for if and only if no flush took a batch
with a text that is not valid UTF-8. None does so while the node id and the stored texts of
the samples that the drivers return are valid. -/
theorem accounted_iff_builds {conversions : YamlConversions}
    {load : Bytes → Except Bytes Yaml} {file : ConfigFile} {path : Bytes} {config : Config}
    {input : ConfigureInput} {s₀ : TelemetryRuntime}
    (hload : loadConfig conversions load file path = .ok config)
    (hconfigure : s₀.configure input config = (true, s)) (hrun : Endings s endings s')
    (hok : ∀ e ∈ endingEvents endings, e.statementOk = true) :
    (Accounted s s' (endingEvents endings) ↔ ∀ t ∈ endings, t.before.Builds t.input) ∧
      (Bytes.validUtf8 config.node.id = true → (∀ t ∈ endings, t.input.ValidTexts) →
        ∀ t ∈ endings, t.before.Builds t.input) := by
  obtain ⟨-, hbuffer, ⟨hopen, -⟩, -⟩ := configure_spec hconfigure
  have hpath := (loadConfig_valid hload).path_ne_nil
  have hempty : s.residents = [] := by simp [residents, hbuffer]
  have hzero : s.dropCount = 0 := by simp [dropCount, hbuffer, RingBuffer.new]
  constructor
  · rw [hrun.accounted_iff (configure_wired hconfigure) (by simpa [hpath] using hopen) hempty
      hzero hok]
    refine forall₂_congr fun t ht => ?_
    obtain ⟨u, hends⟩ := hrun.mem ht
    exact hends.lost_eq_nil_iff
  · intro hnode hreads
    refine (hrun.builds (fun u hu => ?_) (fun x hx => ?_) hreads).2
    · have hconfigured : (s₀.configure input config).2.uploader = some u := by
        rw [hconfigure]
        exact hu
      rwa [nodeId_configure hconfigured]
    · rw [hempty] at hx
      cases hx

/-- A sample that is persisted and retried, and one that is uploaded at once. -/
theorem accounted_iff_builds_two_ticks :
    ∃ endings s', Endings (deployed "1" "remote") endings s' ∧
      (endingEvents endings).flatMap Event.readSamples =
        [deploymentSample 1, deploymentSample 2] ∧
      Accounted (deployed "1" "remote") s' (endingEvents endings) := by
  obtain ⟨ticks, s', hrun, hcheck⟩ := exists_ticks (deployed "1" "remote")
    [deploymentTick 1 (some 1) 503 202, deploymentTick 10 (some 2) 202 202]
    (fun ticks _ => (eventsOf ticks).all Event.statementOk &&
      decide ((eventsOf ticks).flatMap Event.readSamples =
        [deploymentSample 1, deploymentSample 2] ∧
        ∀ t ∈ ticks, t.before.Builds t.input))
    (by decide +kernel)
  rw [Bool.and_eq_true, List.all_eq_true, decide_eq_true_eq] at hcheck
  obtain ⟨hok, hreads, hbuilds⟩ := hcheck
  have hevents : endingEvents (ticks.map fun t => ⟨t.before, t.input, t.events, []⟩) =
      eventsOf ticks := by
    simp [endingEvents, eventsOf, List.flatMap_map]
  refine ⟨_, s', .of_ticks hrun, by rw [hevents, hreads], ?_⟩
  exact (accounted_iff_builds deploymentResult_one_remote configure_one_remote (.of_ticks hrun)
    (by rwa [hevents])).1.mpr (by simpa using hbuilds)

/-- A unit that is cut within its last character: the flush throws, and the reading is
gone. -/
theorem not_accounted_two_byte_characters :
    ¬ ∀ (conversions : YamlConversions) (load : Bytes → Except Bytes Yaml) (file : ConfigFile)
      (path : Bytes) (config : Config) (input : ConfigureInput) (s₀ s s' : TelemetryRuntime)
      (endings : List Ending), loadConfig conversions load file path = .ok config →
      s₀.configure input config = (true, s) → Endings s endings s' →
      (∀ e ∈ endingEvents endings, e.statementOk = true) →
      Accounted s s' (endingEvents endings) := by
  intro hclaim
  let reading := unitSample (List.replicate 16 [0xC3, 0xA9]).flatten
  let tick := { deploymentTick 1 none 202 202 with reads := fun _ => ⟨[reading], by decide⟩ }
  have hpoll : ((deployed "1" "remote").pollDue tick).toOption.any (fun r =>
      (r.1.all Event.statementOk && !(r.2.maybeFlush tick.flush).toOption.isSome)) = true := by
    decide +kernel
  obtain ⟨r, hpoll, hcheck⟩ := Abort.exists_ok_of_any hpoll
  rw [Bool.and_eq_true, List.all_eq_true] at hcheck
  obtain ⟨hok, hflush⟩ := hcheck
  cases hthrown : r.2.maybeFlush tick.flush with
  | ok flushed =>
      rw [hthrown] at hflush
      cases hflush
  | error e =>
      have hends : (deployed "1" "remote").Ends tick r.1 r.2.drained.1 r.2.drained.2 :=
        .flushThrew (by decide +kernel) hpoll hthrown
      have hrun : Endings (deployed "1" "remote") ([] ++ [⟨_, tick, r.1, r.2.drained.1⟩])
          r.2.drained.2 := Transition.Run.nil.snoc ⟨rfl, hends⟩
      have hstatements : ∀ e ∈ endingEvents ([] ++
          [⟨deployed "1" "remote", tick, r.1, r.2.drained.1⟩]), e.statementOk = true := by
        simpa using hok
      have haccounted := hclaim _ _ _ _ _ _ _ _ _ _ deploymentResult_one_remote
        configure_one_remote hrun hstatements
      have hlost := (hrun.accounted_iff (configure_wired configure_one_remote)
        (by decide +kernel) (by decide +kernel) (by decide +kernel) hstatements).mp haccounted
      exact drained_ne_nil hthrown (hlost _ (List.mem_singleton_self _))

end Accounted

end Bossa.Runtime
