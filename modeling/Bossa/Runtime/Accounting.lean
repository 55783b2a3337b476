import Bossa.Core.LoadConfig
import Bossa.Runtime.Ticks

/-!
# Accounting for samples

When SQLite statements succeed, nothing stays in hand between the buffer and the table
after a flush or a retry, and what was delivered is what accepted POSTs contained. Every
sample that was read or pending is then in one place.
-/

namespace Bossa.Runtime

open Bossa.Core Telemetry Storage Sync
open Ledger (Entry Posts)

def readOrigins (events : List Event) : Multiset ℕ :=
  ↑((events.flatMap Event.readSamples).map Sample.origin)

@[simp] theorem readOrigins_cons (e : Event) (events : List Event) :
    readOrigins (e :: events) = ↑(e.readSamples.map Sample.origin) + readOrigins events := by
  simp [readOrigins]

theorem readOrigins_append (events events' : List Event) :
    readOrigins (events ++ events') = readOrigins events + readOrigins events' := by
  simp [readOrigins]

/-- A place that samples do not leave. -/
def Place.IsFinal (p : Place) : Prop := p ≠ .buffered ∧ p ≠ .inHand ∧ p ≠ .pending

namespace Event

theorem entering_entries (e : Event) :
    Entry.totalEntering e.entries = ↑(e.readSamples.map Sample.origin) := by
  rcases e with _ | _ | ⟨_ | _⟩ | ⟨⟨_, _ | _⟩ | _ | _ | ⟨_, _ | _⟩⟩ <;>
    simp [entries, statementEntries, Entry.entering, readSamples]

theorem outflow_entries {p : Place} (hp : p.IsFinal) (e : Event) :
    Entry.totalOutflow p e.entries = 0 := by
  obtain ⟨hbuffered, hhand, hpending⟩ := hp
  rcases e with _ | _ | ⟨_ | _⟩ | ⟨⟨_, _ | _⟩ | _ | _ | ⟨_, _ | _⟩⟩ <;>
    simp [entries, statementEntries, Entry.outflow, hbuffered.symm, hhand.symm,
      hpending.symm]

theorem inflow_dropped_entries (e : Event) :
    Entry.totalInflow .dropped e.entries = origins e.droppedSamples := by
  rcases e with _ | _ | ⟨_ | _, _, exchange⟩ | ⟨⟨_, _ | _⟩ | _ | _ | ⟨_, _ | _⟩⟩ <;>
    simp [entries, statementEntries, Entry.inflow, droppedSamples]
  cases HttpUploader.interpretResponse exchange.response <;> simp [destination]

theorem inflow_refused_entries (e : Event) :
    Entry.totalInflow .refused e.entries = origins e.refusedSamples := by
  rcases e with _ | _ | ⟨_ | _, _, exchange⟩ | ⟨⟨_, _ | _⟩ | _ | _ | ⟨_, _ | _⟩⟩ <;>
    simp [entries, statementEntries, Entry.inflow, refusedSamples]
  cases HttpUploader.interpretResponse exchange.response <;> simp [destination]

theorem inflow_discarded_entries (e : Event) :
    Entry.totalInflow .discarded e.entries = 0 := by
  rcases e with _ | _ | ⟨_ | _, _, exchange⟩ | ⟨⟨_, _ | _⟩ | _ | _ | ⟨_, _ | _⟩⟩ <;>
    simp [entries, statementEntries, Entry.inflow]
  cases HttpUploader.interpretResponse exchange.response <;> simp [destination]

theorem inflow_closed_entries (e : Event) : Entry.totalInflow .closed e.entries = 0 := by
  rcases e with _ | _ | ⟨_ | _, _, exchange⟩ | ⟨⟨_, _ | _⟩ | _ | _ | ⟨_, _ | _⟩⟩ <;>
    simp [entries, statementEntries, Entry.inflow]
  cases HttpUploader.interpretResponse exchange.response <;> simp [destination]

end Event

theorem entering_journal (events : List Event) :
    Entry.totalEntering (journal events) = readOrigins events := by
  induction events with
  | nil => rfl
  | cons e events ih =>
      rw [journal_cons, Entry.totalEntering_append, e.entering_entries, ih, readOrigins_cons]

theorem outflow_journal {p : Place} (hp : p.IsFinal) (events : List Event) :
    Entry.totalOutflow p (journal events) = 0 := by
  induction events with
  | nil => rfl
  | cons e events ih =>
      rw [journal_cons, Entry.totalOutflow_append, e.outflow_entries hp, ih, add_zero]

theorem inflow_journal {p : Place} {f : Event → List StoredSample}
    (hf : ∀ e : Event, Entry.totalInflow p e.entries = origins (f e)) (events : List Event) :
    Entry.totalInflow p (journal events) = origins (events.flatMap f) := by
  induction events with
  | nil => rfl
  | cons e events ih =>
      rw [journal_cons, Entry.totalInflow_append, hf, ih, List.flatMap_cons, origins_append]

theorem inflow_journal_eq_zero {p : Place} {events : List Event}
    (h : ∀ e ∈ events, Entry.totalInflow p e.entries = 0) :
    Entry.totalInflow p (journal events) = 0 := by
  induction events with
  | nil => rfl
  | cons e events ih =>
      rw [List.forall_mem_cons] at h
      rw [journal_cons, Entry.totalInflow_append, h.1, ih h.2, add_zero]

theorem outflow_journal_eq_zero {p : Place} {events : List Event}
    (h : ∀ e ∈ events, Entry.totalOutflow p e.entries = 0) :
    Entry.totalOutflow p (journal events) = 0 := by
  induction events with
  | nil => rfl
  | cons e events ih =>
      rw [List.forall_mem_cons] at h
      rw [journal_cons, Entry.totalOutflow_append, h.1, ih h.2, add_zero]

/-- Nothing stays in hand, and what is delivered was in accepted POSTs. -/
structure Settled (events : List Event) : Prop where
  inHand : Entry.totalInflow .inHand (journal events) =
    Entry.totalOutflow .inHand (journal events)
  delivered : Entry.totalInflow .delivered (journal events) =
    origins (events.flatMap Event.acceptedSamples)

namespace Settled

theorem nil : Settled [] := ⟨rfl, rfl⟩

theorem append {events events' : List Event} (h : Settled events) (h' : Settled events') :
    Settled (events ++ events') where
  inHand := by
    rw [journal_append, Entry.totalInflow_append, Entry.totalOutflow_append, h.inHand,
      h'.inHand]
  delivered := by
    rw [journal_append, Entry.totalInflow_append, h.delivered, h'.delivered,
      List.flatMap_append, origins_append]

end Settled

section Sync

theorem outflow_persistSamples :
    ∀ (samples : List StoredSample) (fault : ℕ → Option Bytes) (store : LocalStore),
      (∀ s ∈ (HttpUploader.persistSamples fault samples store).2.1, s.ok = true) →
      Entry.totalOutflow .inHand
          (journal ((HttpUploader.persistSamples fault samples store).2.1.map .statement)) =
        origins samples
  | [], _, _, _ => rfl
  | sample :: samples, fault, store, hok => by
      rw [HttpUploader.persistSamples] at hok ⊢
      dsimp only at hok ⊢
      rw [List.forall_mem_cons] at hok
      have ih := outflow_persistSamples samples (fun i => fault (i + 1)) _ hok.2
      have hinsert : (store.enqueue (fault 0) sample).1 = true := hok.1
      simp [hinsert, Event.entries, statementEntries, Entry.outflow, ih]

theorem inflow_acknowledgeRows :
    ∀ (rows : List PendingRow) (fault : ℕ → Option Bytes) (store : LocalStore),
      (∀ s ∈ (HttpUploader.acknowledgeRows fault rows store).1, s.ok = true) →
      Entry.totalInflow .delivered
          (journal ((HttpUploader.acknowledgeRows fault rows store).1.map .statement)) =
        origins (rows.map PendingRow.sample)
  | [], _, _, _ => rfl
  | row :: rows, fault, store, hok => by
      rw [HttpUploader.acknowledgeRows] at hok ⊢
      dsimp only at hok ⊢
      rw [List.forall_mem_cons] at hok
      have ih := inflow_acknowledgeRows rows (fun i => fault (i + 1)) _ hok.2
      have hdelete : (store.acknowledge (fault 0) row.id).1 = true := hok.1
      simp [hdelete, Event.entries, statementEntries, Entry.inflow, ih]

theorem mem_persistSamples :
    ∀ (samples : List StoredSample) (fault : ℕ → Option Bytes) (store : LocalStore),
      ∀ s ∈ (HttpUploader.persistSamples fault samples store).2.1,
        ∃ sample ok, s = .insert sample ok
  | [], _, _, _, hs => by simp [HttpUploader.persistSamples] at hs
  | sample :: samples, fault, store, s, hs => by
      rcases List.mem_cons.mp hs with rfl | hs
      · exact ⟨sample, _, rfl⟩
      · exact mem_persistSamples samples _ _ s hs

theorem mem_acknowledgeRows :
    ∀ (rows : List PendingRow) (fault : ℕ → Option Bytes) (store : LocalStore),
      ∀ s ∈ (HttpUploader.acknowledgeRows fault rows store).1, ∃ row ok, s = .delete row ok
  | [], _, _, _, hs => by simp [HttpUploader.acknowledgeRows] at hs
  | row :: rows, fault, store, s, hs => by
      rcases List.mem_cons.mp hs with rfl | hs
      · exact ⟨row, _, rfl⟩
      · exact mem_acknowledgeRows rows _ _ s hs

theorem acceptedSamples_statements (statements : List Statement) :
    (statements.map Event.statement).flatMap Event.acceptedSamples = [] := by
  simp [List.flatMap_map, Event.acceptedSamples]

theorem inflow_inHand_statements (statements : List Statement) :
    Entry.totalInflow .inHand (journal (statements.map .statement)) = 0 := by
  refine inflow_journal_eq_zero fun e he => ?_
  obtain ⟨s, -, rfl⟩ := List.mem_map.mp he
  rcases s with ⟨_, _ | _⟩ | _ | _ | ⟨_, _ | _⟩ <;>
    simp [Event.entries, statementEntries, Entry.inflow]

theorem inflow_delivered_persistSamples (samples : List StoredSample)
    (fault : ℕ → Option Bytes) (store : LocalStore) :
    Entry.totalInflow .delivered
      (journal ((HttpUploader.persistSamples fault samples store).2.1.map .statement)) = 0 := by
  refine inflow_journal_eq_zero fun e he => ?_
  obtain ⟨s, hs, rfl⟩ := List.mem_map.mp he
  obtain ⟨sample, ok, rfl⟩ := mem_persistSamples samples fault store s hs
  cases ok <;> simp [Event.entries, statementEntries, Entry.inflow]

theorem outflow_inHand_acknowledgeRows (rows : List PendingRow) (fault : ℕ → Option Bytes)
    (store : LocalStore) :
    Entry.totalOutflow .inHand
      (journal ((HttpUploader.acknowledgeRows fault rows store).1.map .statement)) = 0 := by
  refine outflow_journal_eq_zero fun e he => ?_
  obtain ⟨s, hs, rfl⟩ := List.mem_map.mp he
  obtain ⟨row, ok, rfl⟩ := mem_acknowledgeRows rows fault store s hs
  cases ok <;> simp [Event.entries, statementEntries, Entry.outflow]

variable {u : HttpUploader} {client : HttpClient} {faults : StoreFaults} {sentAt : ℤ}
  {store : LocalStore} {attempt : Attempt}

theorem upload_settled {batch : List StoredSample} (now : ℤ) (hne : batch ≠ [])
    (hstore : u.hasStore = true)
    (hok : ∀ e ∈ attemptEvents .flush now attempt, e.statementOk = true)
    (h : u.upload client faults sentAt batch store = .ok attempt) :
    Settled (attemptEvents .flush now attempt) := by
  obtain ⟨request, _, hexchange, hresult, hcases⟩ := HttpUploader.upload_cases hne h
  rcases hcases with ⟨hanswer, hstatements, -⟩ | ⟨htransient, hstatements, -⟩
  · cases hr : attempt.result with
    | accepted =>
        constructor <;> simp [attemptEvents, hexchange, hstatements, Event.entries,
          Event.acceptedSamples, ← hresult, hr, destination, Entry.inflow, Entry.outflow]
    | rejected =>
        constructor <;> simp [attemptEvents, hexchange, hstatements, Event.entries,
          Event.acceptedSamples, ← hresult, hr, destination, Entry.inflow, Entry.outflow]
    | transientFailure => exact absurd hr hanswer
  · rw [HttpUploader.persistAll, if_pos hstore] at hstatements
    have hinserted : ∀ s ∈ (HttpUploader.persistSamples faults.insert batch store).2.1,
        s.ok = true := by
      intro s hs
      rw [← hstatements] at hs
      exact hok (.statement s)
        (List.mem_append_right _ (List.mem_map_of_mem hs))
    have hout := outflow_persistSamples batch faults.insert store hinserted
    have hin := inflow_inHand_statements
      (HttpUploader.persistSamples faults.insert batch store).2.1
    have hdelivered := inflow_delivered_persistSamples batch faults.insert store
    constructor
    · simp [attemptEvents, hexchange, hstatements, Event.entries, ← hresult, htransient,
        destination, Entry.inflow, Entry.outflow, hout, hin]
    · simp [attemptEvents, hexchange, hstatements, Event.entries, ← hresult, htransient,
        destination, Entry.inflow, hdelivered, Event.acceptedSamples,
        acceptedSamples_statements]

theorem retryPending_settled {maxBatch : ℕ} (now : ℤ) (hstore : u.hasStore = true)
    (hok : ∀ e ∈ attemptEvents .retry now attempt, e.statementOk = true)
    (h : u.retryPending client faults sentAt maxBatch store = .ok attempt) :
    Settled (attemptEvents .retry now attempt) := by
  rcases HttpUploader.retryPending_cases hstore h with
    ⟨-, rfl⟩ | ⟨-, request, _, hexchange, hresult, hcases⟩
  · constructor <;> rfl
  · rcases hcases with ⟨hanswer, hstatements, -⟩ | ⟨haccepted, hstatements, -⟩
    · constructor <;> simp [attemptEvents, hexchange, hstatements, Event.entries,
        statementEntries, Event.acceptedSamples, ← hresult, hanswer, Entry.inflow,
        Entry.outflow]
    · have hdeleted : ∀ s ∈ (HttpUploader.acknowledgeRows faults.delete
          (store.peekBatch faults.select maxBatch) store).1, s.ok = true := by
        intro s hs
        refine hok (.statement s) (List.mem_append_right _ (List.mem_map_of_mem ?_))
        rw [hstatements]
        exact List.mem_cons_of_mem _ hs
      have hin := inflow_inHand_statements (HttpUploader.acknowledgeRows faults.delete
        (store.peekBatch faults.select maxBatch) store).1
      have hout := outflow_inHand_acknowledgeRows
        (store.peekBatch faults.select maxBatch) faults.delete store
      have hdelivered := inflow_acknowledgeRows
        (store.peekBatch faults.select maxBatch) faults.delete store hdeleted
      constructor
      · simp [attemptEvents, hexchange, hstatements, Event.entries, statementEntries,
          Entry.inflow, Entry.outflow, hin, hout]
      · simp [attemptEvents, hexchange, hstatements, Event.entries, statementEntries,
          Entry.inflow, hdelivered, Event.acceptedSamples, ← hresult, haccepted,
          acceptedSamples_statements]

end Sync

namespace TelemetryRuntime

/-- A read or a drop. -/
inductive IsPoll : Event → Prop
  | read (channel : ChannelConfig) (now : ℤ) (sample : Sample) :
      IsPoll (.read channel now sample)
  | dropped (sample : StoredSample) : IsPoll (.dropped sample)

theorem recordSamples_isPoll (channelId : Bytes) (channel : ChannelConfig) (now : ℤ) :
    ∀ (samples : List Sample) (s : TelemetryRuntime),
      ∀ e ∈ (s.recordSamples channelId channel now samples).1, IsPoll e
  | [], _, _, he => by simp [recordSamples] at he
  | sample :: samples, s, e, he => by
      rcases List.mem_append.mp he with he | he
      · rcases List.mem_cons.mp he with rfl | he
        · exact .read channel now sample
        · obtain ⟨d, -, rfl⟩ := Option.map_eq_some_iff.mp (Option.mem_toList.mp he)
          exact .dropped d
      · exact recordSamples_isPoll channelId channel now samples _ e he

theorem pollChannels_isPoll (input : TickInput) :
    ∀ (polls : List Bytes) (index : ℕ) (s : TelemetryRuntime),
      ∀ e ∈ (s.pollChannels input index polls).1, IsPoll e
  | [], _, _, _, he => by simp [pollChannels] at he
  | channelId :: polls, index, s, e, he => by
      rcases List.mem_append.mp he with he | he
      · split at he
        · cases he
        · exact recordSamples_isPoll _ _ _ _ _ e he
      · exact pollChannels_isPoll input polls (index + 1) _ e he

theorem pollDue_isPoll {input : TickInput} {s s' : TelemetryRuntime} {events : List Event}
    (h : s.pollDue input = .ok (events, s')) : ∀ e ∈ events, IsPoll e := by
  obtain ⟨dispatch, -, rfl, -⟩ := pollDue_cases h
  exact pollChannels_isPoll input dispatch.polls 0 s

theorem flatMap_of_isPoll {α : Type*} {f : Event → List α}
    (hread : ∀ channel now sample, f (.read channel now sample) = [])
    (hdropped : ∀ sample, f (.dropped sample) = []) {events : List Event}
    (h : ∀ e ∈ events, IsPoll e) : events.flatMap f = [] := by
  refine List.flatMap_eq_nil_iff.mpr fun e he => ?_
  cases h e he with
  | read channel now sample => exact hread channel now sample
  | dropped sample => exact hdropped sample

theorem settled_of_isPoll {events : List Event} (h : ∀ e ∈ events, IsPoll e) :
    Settled events := by
  induction events with
  | nil => exact .nil
  | cons e events ih =>
      rw [List.forall_mem_cons] at h
      refine Settled.append (?_ : Settled [e]) (ih h.2)
      cases h.1 <;> constructor <;>
        simp [Event.entries, Entry.inflow, Entry.outflow, Event.acceptedSamples]

theorem maybeFlush_settled {input : AttemptInput} {s s' : TelemetryRuntime}
    {events : List Event} (hwired : s.Wired) (hopen : s.storeOpen = true)
    (hok : ∀ e ∈ events, e.statementOk = true) (h : s.maybeFlush input = .ok (events, s')) :
    Settled events := by
  rcases maybeFlush_cases h with
    ⟨-, rfl, -⟩ | ⟨-, uploader, buffer, attempt, hu, -, hne, hupload, rfl, -⟩
  · exact .nil
  · exact upload_settled input.now hne ((hwired.uploader uploader hu).trans hopen) hok hupload

theorem maybeRetry_settled {countFault : Bool} {input : AttemptInput}
    {s s' : TelemetryRuntime} {events : List Event} (hwired : s.Wired)
    (hok : ∀ e ∈ events, e.statementOk = true)
    (h : s.maybeRetry countFault input = .ok (events, s')) : Settled events := by
  rcases maybeRetry_cases h with ⟨hevents, -⟩ | ⟨uploader, attempt, hu, hopen, hattempt, rfl, -⟩
  · rcases hevents with rfl | rfl <;> constructor <;> rfl
  · have hcount : Settled [.statement (.count !countFault)] := ⟨rfl, rfl⟩
    rw [List.forall_mem_cons] at hok
    exact hcount.append (retryPending_settled input.now
      ((hwired.uploader uploader hu).trans hopen) hok.2 hattempt)

/-- `drop_count` of the ring buffer. -/
def dropCount (s : TelemetryRuntime) : ℕ := s.buffer.elim 0 RingBuffer.dropCount

theorem recordSamples_dropCount (channelId : Bytes) (channel : ChannelConfig) (now : ℤ) :
    ∀ (samples : List Sample) (s : TelemetryRuntime),
      (s.recordSamples channelId channel now samples).2.dropCount = s.dropCount +
        ((s.recordSamples channelId channel now samples).1.flatMap
          Event.droppedSamples).length
  | [], _ => rfl
  | sample :: samples, s => by
      have hrecord : (s.recordSample channelId channel now sample).2.dropCount = s.dropCount +
          ((s.recordSample channelId channel now sample).1.flatMap
            Event.droppedSamples).length := by
        cases hb : s.buffer with
        | none => simp [recordSample, dropCount, hb, Event.droppedSamples]
        | some b =>
            have henqueue := b.dropCount_enqueue_eq
              (StoredSample.fromSample sample channel.sync.priority)
            cases hd : b.dropped (StoredSample.fromSample sample channel.sync.priority) <;>
              simp [recordSample, dropCount, hb, hd, henqueue, Event.droppedSamples]
      have ih := recordSamples_dropCount channelId channel now samples
        (s.recordSample channelId channel now sample).2
      simp only [recordSamples, List.flatMap_append, List.length_append]
      rw [ih, hrecord, add_assoc]

theorem pollChannels_dropCount (input : TickInput) :
    ∀ (polls : List Bytes) (index : ℕ) (s : TelemetryRuntime),
      (s.pollChannels input index polls).2.dropCount = s.dropCount +
        ((s.pollChannels input index polls).1.flatMap Event.droppedSamples).length
  | [], _, _ => rfl
  | channelId :: polls, index, s => by
      have hpoll : (s.pollChannel channelId (input.reads index) (input.pollNow index)).2.dropCount =
          s.dropCount + ((s.pollChannel channelId (input.reads index)
            (input.pollNow index)).1.flatMap Event.droppedSamples).length := by
        unfold pollChannel
        split
        · rfl
        · exact recordSamples_dropCount _ _ _ _ _
      simp only [pollChannels, List.flatMap_append, List.length_append]
      rw [pollChannels_dropCount input polls (index + 1), hpoll, add_assoc]

theorem drain_dropCount :
    ∀ (count : ℕ) (b : RingBuffer), (drain count b).2.dropCount = b.dropCount
  | 0, _ => rfl
  | count + 1, b => by
      have hcount := b.dequeue_dropCount
      rw [drain]
      split
      · next b' hdequeue => rwa [hdequeue] at hcount
      · next sample b' hdequeue =>
          rw [hdequeue] at hcount
          exact (drain_dropCount count b').trans hcount

theorem flatMap_attemptEvents {α : Type*} {f : Event → List α}
    (hpost : ∀ route now exchange, f (.post route now exchange) = [])
    (hstatement : ∀ s, f (.statement s) = []) (route : Route) (now : ℤ) (attempt : Attempt) :
    (attemptEvents route now attempt).flatMap f = [] := by
  cases hexchange : attempt.exchange <;>
    simp [attemptEvents, hexchange, List.flatMap_map, hpost, hstatement]

theorem maybeFlush_flatMap {α : Type*} {f : Event → List α}
    (hpost : ∀ route now exchange, f (.post route now exchange) = [])
    (hstatement : ∀ s, f (.statement s) = []) {input : AttemptInput}
    {s s' : TelemetryRuntime} {events : List Event}
    (h : s.maybeFlush input = .ok (events, s')) : events.flatMap f = [] := by
  rcases maybeFlush_cases h with
    ⟨-, rfl, -⟩ | ⟨-, uploader, buffer, attempt, -, -, -, -, rfl, -⟩
  · rfl
  · exact flatMap_attemptEvents hpost hstatement _ _ _

theorem maybeRetry_flatMap {α : Type*} {f : Event → List α}
    (hpost : ∀ route now exchange, f (.post route now exchange) = [])
    (hstatement : ∀ s, f (.statement s) = []) {countFault : Bool} {input : AttemptInput}
    {s s' : TelemetryRuntime} {events : List Event}
    (h : s.maybeRetry countFault input = .ok (events, s')) : events.flatMap f = [] := by
  rcases maybeRetry_cases h with ⟨hevents, -⟩ | ⟨uploader, attempt, -, -, -, rfl, -⟩
  · rcases hevents with rfl | rfl
    · rfl
    · simp [hstatement]
  · rw [List.flatMap_cons, hstatement, List.nil_append]
    exact flatMap_attemptEvents hpost hstatement _ _ _

theorem flatMap_flush_retry {α : Type*} {f : Event → List α}
    (hpost : ∀ route now exchange, f (.post route now exchange) = [])
    (hstatement : ∀ s, f (.statement s) = []) {input input' : AttemptInput} {countFault : Bool}
    {s s' s'' : TelemetryRuntime} {events events' : List Event}
    (hflush : s.maybeFlush input = .ok (events, s'))
    (hretry : s'.maybeRetry countFault input' = .ok (events', s'')) :
    (events ++ events').flatMap f = [] := by
  rw [List.flatMap_append, maybeFlush_flatMap hpost hstatement hflush,
    maybeRetry_flatMap hpost hstatement hretry, List.append_nil]

theorem pollDue_dropCount {input : TickInput} {s s' : TelemetryRuntime} {events : List Event}
    (h : s.pollDue input = .ok (events, s')) :
    s'.dropCount = s.dropCount + (events.flatMap Event.droppedSamples).length := by
  obtain ⟨dispatch, -, rfl, rfl⟩ := pollDue_cases h
  exact pollChannels_dropCount input dispatch.polls 0 s

theorem maybeFlush_dropCount {input : AttemptInput} {s s' : TelemetryRuntime}
    {events : List Event} (h : s.maybeFlush input = .ok (events, s')) :
    s'.dropCount = s.dropCount := by
  rcases maybeFlush_cases h with
    ⟨-, -, rfl⟩ | ⟨-, uploader, buffer, attempt, -, hbuffer, -, -, -, rfl⟩
  · rfl
  · have hdrain := drain_dropCount s.maxBatch buffer
    cases attempt.result <;>
      simpa [dropCount, hbuffer, afterFlush, resetBackoffAfterSuccess,
        advanceBackoffAfterFailure] using hdrain

theorem tick_dropCount {input : TickInput} {s s' : TelemetryRuntime} {events : List Event}
    (h : s.tick input = .ok (events, s')) :
    s'.dropCount = s.dropCount + (events.flatMap Event.droppedSamples).length := by
  rcases tick_cases h with
    ⟨-, rfl, rfl⟩ | ⟨-, pollEvents, polled, flushEvents, flushed, retryEvents, hpoll, hflush,
      hretry, rfl⟩
  · rfl
  · have hretried : s'.dropCount = flushed.dropCount := by
      rcases maybeRetry_cases hretry with ⟨-, rfl⟩ | ⟨uploader, attempt, -, -, -, -, rfl⟩
      · rfl
      · cases attempt.result <;> rfl
    rw [hretried, maybeFlush_dropCount hflush, pollDue_dropCount hpoll, List.append_assoc,
      List.flatMap_append, flatMap_flush_retry (fun _ _ _ => rfl) (fun _ => rfl) hflush hretry,
      List.append_nil]

end TelemetryRuntime

namespace Ticks

open TelemetryRuntime

variable {s s' : TelemetryRuntime} {ticks : List Tick}

theorem dropCount_eq (hrun : Ticks s ticks s') :
    s'.dropCount = s.dropCount + ((eventsOf ticks).flatMap Event.droppedSamples).length := by
  induction hrun with
  | nil => rfl
  | snoc _ hstep ih =>
      rw [tick_dropCount hstep.2, ih, eventsOf_append, eventsOf_singleton,
        List.flatMap_append, List.length_append, add_assoc]

end Ticks

/-- The places of the accounting: in the ring buffer, counted as dropped, in a row of
the table, in an accepted POST, in a direct upload that was rejected. -/
inductive Whereabouts where
  | buffered
  | dropped
  | pending
  | accepted
  | refused
  deriving DecidableEq

instance : Fintype Whereabouts where
  elems := {.buffered, .dropped, .pending, .accepted, .refused}
  complete := by
    intro w
    cases w <;> decide

/-- Which samples are where after a run with the given events. -/
def whereabouts (events : List Event) (s : TelemetryRuntime) : Ledger Whereabouts ℕ
  | .buffered => origins s.residents
  | .dropped => origins (events.flatMap Event.droppedSamples)
  | .pending => rowOrigins s.store.rows
  | .accepted => origins (events.flatMap Event.acceptedSamples)
  | .refused => origins (events.flatMap Event.refusedSamples)

/-- The ledger of a runtime whose history does not matter. -/
def openingBooks (s : TelemetryRuntime) : Ledger Place ℕ
  | .buffered => origins s.residents
  | .pending => rowOrigins s.store.rows
  | _ => 0

theorem booked_openingBooks (s : TelemetryRuntime) : s.Booked (openingBooks s) := ⟨rfl, rfl⟩

theorem sum_place (h : Ledger Place ℕ) :
    ∑ p, h p = h .buffered + (h .dropped + (h .discarded + (h .inHand + (h .pending +
      (h .closed + (h .delivered + h .refused)))))) := by
  simp [Finset.univ, Fintype.elems]

theorem sum_whereabouts (h : Ledger Whereabouts ℕ) :
    ∑ w, h w = h .buffered + (h .dropped + (h .pending + (h .accepted + h .refused))) := by
  simp [Finset.univ, Fintype.elems]

/-- What each place of the accounting holds, from a ledger in which nothing is in hand. -/
theorem sum_whereabouts_of_posts {s s' : TelemetryRuntime} {events : List Event}
    {h' : Ledger Place ℕ} (hposts : Posts (openingBooks s) (journal events) h')
    (hbooks : s'.Booked h') (hsettled : Settled events) :
    ∑ w, whereabouts events s' w =
      origins s.residents + (rowOrigins s.store.rows + readOrigins events) := by
  have hhand : h' .inHand = 0 := by
    have hbalance := hposts.balance .inHand
    rw [hsettled.inHand] at hbalance
    exact add_right_cancel hbalance
  have hfinal : ∀ p : Place, p.IsFinal → openingBooks s p = 0 →
      h' p = Entry.totalInflow p (journal events) := by
    intro p hp hzero
    have hbalance := hposts.balance p
    rwa [outflow_journal hp, add_zero, hzero, zero_add] at hbalance
  have hdropped := hfinal .dropped (by simp [Place.IsFinal]) rfl
  have hrefused := hfinal .refused (by simp [Place.IsFinal]) rfl
  have hdelivered := hfinal .delivered (by simp [Place.IsFinal]) rfl
  have hdiscarded := hfinal .discarded (by simp [Place.IsFinal]) rfl
  have hclosed := hfinal .closed (by simp [Place.IsFinal]) rfl
  rw [inflow_journal Event.inflow_dropped_entries] at hdropped
  rw [inflow_journal Event.inflow_refused_entries] at hrefused
  rw [hsettled.delivered] at hdelivered
  rw [inflow_journal_eq_zero fun e _ => e.inflow_discarded_entries] at hdiscarded
  rw [inflow_journal_eq_zero fun e _ => e.inflow_closed_entries] at hclosed
  have htotal := hposts.sum_eq
  rw [sum_place, sum_place, entering_journal, hbooks.buffered, hbooks.pending, hhand, hdropped,
    hrefused, hdelivered, hdiscarded, hclosed] at htotal
  rw [sum_whereabouts]
  simpa [whereabouts, openingBooks, add_assoc] using htotal

end Bossa.Runtime
