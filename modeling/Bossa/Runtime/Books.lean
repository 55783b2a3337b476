import Bossa.Runtime.TelemetryRuntime
import Bossa.Telemetry.RingBuffer.Refinement
import Bossa.Transition.Ledger

/-!
# The books of the runtime

What the runtime is for, as far as custody of samples goes: a ledger of the places
a sample can be in, and for every event the entries it makes. Samples are named by
their origins. A tick of the runtime posts the entries of its events, and afterwards
the ledger agrees with the ring buffer and with the table again.
-/

namespace Bossa.Runtime

open Bossa.Core Telemetry Storage Sync
open Ledger (Entry Posts)

/-- Where a sample can be: in the ring buffer, dropped by it, discarded with it, on
the way from the buffer to the table, in the table, in a table that was closed,
delivered to the server, or refused by it. -/
inductive Place where
  | buffered
  | dropped
  | discarded
  | inHand
  | pending
  | closed
  | delivered
  | refused
  deriving DecidableEq

instance : Fintype Place where
  elems :=
    {.buffered, .dropped, .discarded, .inHand, .pending, .closed, .delivered, .refused}
  complete := by
    intro p
    cases p <;> decide

def origins (samples : List StoredSample) : Multiset ℕ :=
  ↑(samples.map StoredSample.origin)

def rowOrigins (rows : List PendingUpload) : Multiset ℕ :=
  ↑(rows.map PendingUpload.origin)

@[simp] theorem origins_nil : origins [] = 0 := rfl

@[simp] theorem origins_cons (s : StoredSample) (samples : List StoredSample) :
    origins (s :: samples) = s.origin ::ₘ origins samples := rfl

@[simp] theorem origins_append (samples samples' : List StoredSample) :
    origins (samples ++ samples') = origins samples + origins samples' := by
  simp [origins]

theorem origins_eq_of_perm {samples samples' : List StoredSample}
    (h : samples.Perm samples') : origins samples = origins samples' :=
  Multiset.coe_eq_coe.mpr (h.map _)

@[simp] theorem rowOrigins_nil : rowOrigins [] = 0 := rfl

@[simp] theorem rowOrigins_cons (r : PendingUpload) (rows : List PendingUpload) :
    rowOrigins (r :: rows) = r.origin ::ₘ rowOrigins rows := rfl

@[simp] theorem rowOrigins_append (rows rows' : List PendingUpload) :
    rowOrigins (rows ++ rows') = rowOrigins rows + rowOrigins rows' := by
  simp [rowOrigins]

theorem rowOrigins_eq_of_perm {rows rows' : List PendingUpload} (h : rows.Perm rows') :
    rowOrigins rows = rowOrigins rows' :=
  Multiset.coe_eq_coe.mpr (h.map _)

theorem rowOrigins_take_le (count : ℕ) (rows : List PendingUpload) :
    rowOrigins (rows.take count) ≤ rowOrigins rows :=
  Multiset.coe_le.mpr ((List.take_sublist _ _).map _).subperm

theorem origins_toRow (rows : List PendingUpload) :
    origins ((rows.map PendingUpload.toRow).map PendingRow.sample) = rowOrigins rows := by
  simp [origins, rowOrigins, Function.comp_def]

def destination : UploadResult → Place
  | .accepted => .delivered
  | .rejected => .refused
  | .transientFailure => .inHand

def statementEntries : Statement → List (Entry Place ℕ)
  | .insert sample true => [.transfer .inHand .pending {sample.origin}]
  | .delete row true => [.transfer .pending .delivered {row.sample.origin}]
  | _ => []

def Event.entries : Event → List (Entry Place ℕ)
  | .read _ _ sample => [.deposit .buffered {sample.origin}]
  | .dropped sample => [.transfer .buffered .dropped {sample.origin}]
  | .post .flush _ exchange =>
      [.transfer .buffered (destination (HttpUploader.interpretResponse exchange.response))
        (origins exchange.samples)]
  | .post .retry _ exchange => [.inspect .pending (origins exchange.samples)]
  | .statement s => statementEntries s

def journal (events : List Event) : List (Entry Place ℕ) := events.flatMap Event.entries

@[simp] theorem journal_nil : journal [] = [] := rfl

@[simp] theorem journal_cons (e : Event) (events : List Event) :
    journal (e :: events) = e.entries ++ journal events := rfl

@[simp] theorem journal_append (events events' : List Event) :
    journal (events ++ events') = journal events ++ journal events' := by
  simp [journal]

/-- The ledger agrees with a ring buffer and a table. -/
structure Books (residents : List StoredSample) (rows : List PendingUpload)
    (h : Ledger Place ℕ) : Prop where
  buffered : h .buffered = origins residents
  pending : h .pending = rowOrigins rows

section Sync

/-- Persisting a batch that is in hand books what the statements did. -/
theorem persistSamples_posts {residents : List StoredSample} :
    ∀ (samples : List StoredSample) (fault : ℕ → Option Bytes) {store : LocalStore}
      {h : Ledger Place ℕ}, Books residents store.rows h → origins samples ≤ h .inHand →
      ∃ h', Posts h
          (journal ((HttpUploader.persistSamples fault samples store).2.1.map .statement)) h' ∧
        Books residents (HttpUploader.persistSamples fault samples store).2.2.rows h'
  | [], _, _, h, hbooks, _ => ⟨h, .nil h, hbooks⟩
  | sample :: samples, fault, store, h, hbooks, hhand => by
      have henqueue := (store.enqueue_eq (fault 0) sample).2
      rw [HttpUploader.persistSamples]
      dsimp only
      rcases henqueue with ⟨hok, hrows⟩ | ⟨hok, id, hrows⟩
      · have hbooks' : Books residents (store.enqueue (fault 0) sample).2.rows h :=
          ⟨hbooks.buffered, by rw [hrows, hbooks.pending]⟩
        have hhand' : origins samples ≤ h .inHand :=
          (Multiset.le_cons_self _ _).trans hhand
        simpa [hok, Event.entries, statementEntries] using
          persistSamples_posts samples (fun i => fault (i + 1)) hbooks' hhand'
      · rw [origins_cons, ← Multiset.singleton_add] at hhand
        have hentry := Posts.transfer .pending ((Multiset.le_add_right _ _).trans hhand)
        have hbooks' : Books residents (store.enqueue (fault 0) sample).2.rows
            (h.post (.transfer .inHand .pending {sample.origin})) := by
          constructor
          · rw [Ledger.post_transfer_of_ne _ _ (by decide) (by decide), hbooks.buffered]
          · rw [Ledger.post_transfer_target _ _ (by decide), hrows, hbooks.pending]
            simp [PendingUpload.ofSample]
        have hhand' : origins samples ≤
            h.post (.transfer .inHand .pending {sample.origin}) .inHand := by
          rw [Ledger.post_transfer_source _ _ (by decide)]
          exact le_tsub_of_add_le_left hhand
        obtain ⟨h', hrest, hbooks''⟩ :=
          persistSamples_posts samples (fun i => fault (i + 1)) hbooks' hhand'
        refine ⟨h', ?_, hbooks''⟩
        simpa [hok, Event.entries, statementEntries] using hentry.append hrest

theorem persistAll_posts (u : HttpUploader) {residents : List StoredSample}
    (samples : List StoredSample) (fault : ℕ → Option Bytes) {store : LocalStore}
    {h : Ledger Place ℕ} (hbooks : Books residents store.rows h)
    (hhand : origins samples ≤ h .inHand) :
    ∃ h', Posts h (journal ((u.persistAll fault samples store).2.1.map .statement)) h' ∧
      Books residents (u.persistAll fault samples store).2.2.rows h' := by
  unfold HttpUploader.persistAll
  split
  · exact persistSamples_posts samples fault hbooks hhand
  · exact ⟨h, .nil h, hbooks⟩

/-- Acknowledging rows of the table books what the statements did. -/
theorem acknowledgeRows_posts {residents : List StoredSample} :
    ∀ (rows : List PendingRow) (fault : ℕ → Option Bytes) {store : LocalStore}
      {h : Ledger Place ℕ}, Books residents store.rows h →
      (∀ row ∈ rows, ∃ r ∈ store.rows, r.toRow = row) →
      (rows.Pairwise fun row row' => row.id ≠ row'.id) →
      ∃ h', Posts h
          (journal ((HttpUploader.acknowledgeRows fault rows store).1.map .statement)) h' ∧
        Books residents (HttpUploader.acknowledgeRows fault rows store).2.rows h'
  | [], _, _, h, hbooks, _, _ => ⟨h, .nil h, hbooks⟩
  | row :: rows, fault, store, h, hbooks, hrows, hids => by
      obtain ⟨hne, hrestIds⟩ := List.pairwise_cons.mp hids
      obtain ⟨⟨r, hr, rfl⟩, hrest⟩ := List.forall_mem_cons.mp hrows
      have hacknowledge := (store.acknowledge_eq (fault 0) r.id).2
      rw [HttpUploader.acknowledgeRows]
      dsimp only [PendingUpload.toRow_id]
      rcases hacknowledge with ⟨hok, heq⟩ | ⟨hok, heq⟩
      · have hbooks' : Books residents (store.acknowledge (fault 0) r.id).2.rows h :=
          ⟨hbooks.buffered, by rw [heq, hbooks.pending]⟩
        simpa [hok, Event.entries, statementEntries] using
          acknowledgeRows_posts rows (fun i => fault (i + 1)) hbooks'
            (by simpa only [heq] using hrest) hrestIds
      · have hperm : rowOrigins store.rows =
            {r.origin} + rowOrigins (store.acknowledge (fault 0) r.id).2.rows := by
          rw [heq, rowOrigins_eq_of_perm
            (PendingUploads.perm_cons_filter_id store.rows_ordered hr)]
          rfl
        have hle : {r.origin} ≤ h .pending := by
          rw [hbooks.pending, hperm]
          exact Multiset.le_add_right _ _
        have hentry := Posts.transfer .delivered hle
        have hbooks' : Books residents (store.acknowledge (fault 0) r.id).2.rows
            (h.post (.transfer .pending .delivered {r.origin})) := by
          constructor
          · rw [Ledger.post_transfer_of_ne _ _ (by decide) (by decide), hbooks.buffered]
          · rw [Ledger.post_transfer_source _ _ (by decide), hbooks.pending, hperm,
              add_tsub_cancel_left]
        have hkept : ∀ row ∈ rows,
            ∃ s ∈ (store.acknowledge (fault 0) r.id).2.rows, s.toRow = row := by
          intro row hrow
          obtain ⟨s, hs, rfl⟩ := hrest row hrow
          refine ⟨s, ?_, rfl⟩
          rw [heq]
          exact List.mem_filter.mpr ⟨hs, by simpa using (hne _ hrow).symm⟩
        obtain ⟨h', hposts, hbooks''⟩ :=
          acknowledgeRows_posts rows (fun i => fault (i + 1)) hbooks' hkept hrestIds
        refine ⟨h', ?_, hbooks''⟩
        simpa [hok, Event.entries, statementEntries] using hentry.append hposts

variable {u : HttpUploader} {client : HttpClient} {faults : StoreFaults} {sentAt : ℤ}
  {store : LocalStore} {attempt : Attempt}

/-- A flushed batch leaves the buffer; what becomes of it is booked. -/
theorem upload_posts {batch rest : List StoredSample} {h : Ledger Place ℕ} (now : ℤ)
    (hne : batch ≠ []) (hbooks : Books (batch ++ rest) store.rows h)
    (hupload : u.upload client faults sentAt batch store = .ok attempt) :
    ∃ h', Posts h (journal (attemptEvents .flush now attempt)) h' ∧
      Books rest attempt.store.rows h' := by
  obtain ⟨request, _, hexchange, hresult, hcases⟩ :=
    HttpUploader.upload_cases hne hupload
  have hle : origins batch ≤ h .buffered := by
    rw [hbooks.buffered, origins_append]
    exact Multiset.le_add_right _ _
  have hentry := Posts.transfer (destination attempt.result) hle
  have hbuffered : h.post (.transfer .buffered (destination attempt.result) (origins batch))
      .buffered = origins rest := by
    rw [Ledger.post_transfer_source _ _ (by cases attempt.result <;> decide),
      hbooks.buffered, origins_append, add_tsub_cancel_left]
  have hpending : h.post (.transfer .buffered (destination attempt.result) (origins batch))
      .pending = rowOrigins store.rows := by
    rw [Ledger.post_transfer_of_ne _ _ (by decide) (by cases attempt.result <;> decide),
      hbooks.pending]
  rcases hcases with ⟨-, hstatements, hstore⟩ | ⟨htransient, hstatements, hstore⟩
  · refine ⟨_, ?_, hbuffered, by rw [hstore]; exact hpending⟩
    simpa [attemptEvents, hexchange, hstatements, Event.entries, ← hresult] using hentry
  · have hhand : origins batch ≤
        h.post (.transfer .buffered (destination attempt.result) (origins batch)) .inHand := by
      rw [htransient, destination, Ledger.post_transfer_target _ _ (by decide)]
      exact Multiset.le_add_left _ _
    obtain ⟨h', hposts, hbooks'⟩ :=
      persistAll_posts u batch faults.insert ⟨hbuffered, hpending⟩ hhand
    refine ⟨h', ?_, by rw [hstore]; exact hbooks'⟩
    have hjournal := hentry.append hposts
    simpa [attemptEvents, hexchange, hstatements, Event.entries, ← hresult] using hjournal

/-- A retried batch stays in the table until its rows are acknowledged. -/
theorem retryPending_posts {residents : List StoredSample} {h : Ledger Place ℕ} (now : ℤ)
    (maxBatch : ℕ) (hasStore : u.hasStore = true) (hbooks : Books residents store.rows h)
    (hretry : u.retryPending client faults sentAt maxBatch store = .ok attempt) :
    ∃ h', Posts h (journal (attemptEvents .retry now attempt)) h' ∧
      Books residents attempt.store.rows h' := by
  obtain ⟨count, -, hpeek⟩ := store.peekBatch_eq faults.select maxBatch
  rcases HttpUploader.retryPending_cases hasStore hretry with
    ⟨-, rfl⟩ | ⟨-, request, _, hexchange, hresult, hcases⟩
  · exact ⟨h, .nil h, hbooks⟩
  · simp only [hpeek] at hexchange hcases
    have hle : origins (((store.rows.take count).map PendingUpload.toRow).map
        PendingRow.sample) ≤ h .pending := by
      rw [hbooks.pending, origins_toRow]
      exact rowOrigins_take_le _ _
    have hentry := Posts.inspect hle
    rcases hcases with ⟨-, hstatements, hstore⟩ | ⟨-, hstatements, hstore⟩
    · refine ⟨h, ?_, by rw [hstore]; exact hbooks⟩
      simpa [attemptEvents, hexchange, hstatements, Event.entries, statementEntries]
        using hentry
    · have hrows : ∀ row ∈ (store.rows.take count).map PendingUpload.toRow,
          ∃ r ∈ store.rows, r.toRow = row := by
        intro row hrow
        obtain ⟨r, hr, rfl⟩ := List.mem_map.mp hrow
        exact ⟨r, List.mem_of_mem_take hr, rfl⟩
      have hids : ((store.rows.take count).map PendingUpload.toRow).Pairwise
          fun row row' => row.id ≠ row'.id := by
        apply List.pairwise_map.mpr
        exact (store.rows_ordered.sublist (List.take_sublist _ _)).imp fun hlt => hlt.ne
      obtain ⟨h', hposts, hbooks'⟩ :=
        acknowledgeRows_posts _ faults.delete hbooks hrows hids
      refine ⟨h', ?_, by rw [hstore]; exact hbooks'⟩
      have hjournal := hentry.append hposts
      simpa [attemptEvents, hexchange, hstatements, Event.entries, statementEntries]
        using hjournal

end Sync

/-- Draining the buffer takes the oldest samples, up to the given number. -/
theorem drain_eq :
    ∀ (count : ℕ) (b : RingBuffer), (drain count b).1 = b.residents.take count ∧
      (drain count b).2.residents = b.residents.drop count
  | 0, b => ⟨rfl, rfl⟩
  | count + 1, b => by
      have hhead := b.fst_dequeue
      have htail := b.residents_dequeue
      rw [drain]
      split
      · next b' hdequeue =>
          simp only [hdequeue] at hhead htail
          have hnil : b.residents = [] := List.head?_eq_none_iff.mp hhead.symm
          simp [htail, hnil]
      · next sample b' hdequeue =>
          simp only [hdequeue] at hhead htail
          obtain ⟨hbatch, hrest⟩ := drain_eq count b'
          obtain ⟨l, hl⟩ := List.head?_eq_some_iff.mp hhead.symm
          simp [hbatch, hrest, htail, hl]

theorem drain_append (count : ℕ) (b : RingBuffer) :
    (drain count b).1 ++ (drain count b).2.residents = b.residents := by
  rw [(drain_eq count b).1, (drain_eq count b).2, List.take_append_drop]

theorem enqueue_origins (b : RingBuffer) (sample : StoredSample) :
    origins (b.enqueue sample).2.residents + origins (b.dropped sample).toList =
      origins b.residents + {sample.origin} := by
  have hperm := origins_eq_of_perm (b.enqueue_perm sample)
  rwa [origins_append, origins_append] at hperm

namespace TelemetryRuntime

/-- The ledger agrees with the runtime. -/
def Booked (s : TelemetryRuntime) (h : Ledger Place ℕ) : Prop :=
  Books s.residents s.store.rows h

/-- Recording a sample books its arrival and the drop it causes. -/
theorem recordSample_posts {s : TelemetryRuntime} {h : Ledger Place ℕ} (channelId : Bytes)
    (channel : ChannelConfig) (now : ℤ) (sample : Sample) (hbuffer : s.buffer.isSome = true)
    (hbooks : s.Booked h) :
    ∃ h', Posts h (journal (s.recordSample channelId channel now sample).1) h' ∧
      (s.recordSample channelId channel now sample).2.Booked h' := by
  obtain ⟨b, hb⟩ := Option.isSome_iff_exists.mp hbuffer
  have hperm := enqueue_origins b (StoredSample.fromSample sample channel.sync.priority)
  have harrive := Posts.deposit h .buffered {sample.origin}
  have hresidents : h .buffered = origins b.residents := by
    simpa [residents, hb] using hbooks.buffered
  have hdeposited : h.post (.deposit .buffered {sample.origin}) .buffered =
      origins b.residents + {sample.origin} := by
    rw [Ledger.post_deposit, hresidents]
  have hpending : h.post (.deposit .buffered {sample.origin}) .pending =
      rowOrigins s.store.rows := by
    rw [Ledger.post_deposit_of_ne _ _ (by decide), hbooks.pending]
  cases hdropped : b.dropped (StoredSample.fromSample sample channel.sync.priority) with
  | none =>
      refine ⟨_, by simpa [recordSample, hb, hdropped, Event.entries] using harrive, ?_, ?_⟩
      · rw [hdeposited]
        simpa [recordSample, residents, hb, hdropped] using hperm.symm
      · exact hpending
  | some d =>
      have hmoved : h.post (.deposit .buffered {sample.origin}) .buffered =
          origins (b.enqueue (StoredSample.fromSample sample channel.sync.priority)).2.residents +
            {d.origin} := by
        rw [hdeposited]
        simpa [hdropped] using hperm.symm
      have hle : {d.origin} ≤ h.post (.deposit .buffered {sample.origin}) .buffered := by
        rw [hmoved]
        exact Multiset.le_add_left _ _
      have hleave := Posts.transfer .dropped hle
      refine ⟨_, by simpa [recordSample, hb, hdropped, Event.entries] using
        harrive.append hleave, ?_, ?_⟩
      · rw [Ledger.post_transfer_source _ _ (by decide), hmoved, add_tsub_cancel_right]
        simp [recordSample, residents, hb]
      · rw [Ledger.post_transfer_of_ne _ _ (by decide) (by decide), hpending]
        rfl

theorem recordSamples_posts (channelId : Bytes) (channel : ChannelConfig) (now : ℤ) :
    ∀ (samples : List Sample) {s : TelemetryRuntime} {h : Ledger Place ℕ},
      s.buffer.isSome = true → s.Booked h →
      ∃ h', Posts h (journal (s.recordSamples channelId channel now samples).1) h' ∧
        (s.recordSamples channelId channel now samples).2.Booked h'
  | [], _, h, _, hbooks => ⟨h, .nil h, hbooks⟩
  | sample :: samples, s, h, hbuffer, hbooks => by
      obtain ⟨h', hposts, hbooks'⟩ :=
        recordSample_posts channelId channel now sample hbuffer hbooks
      have hbuffer' : (s.recordSample channelId channel now sample).2.buffer.isSome = true := by
        simpa [recordSample] using hbuffer
      obtain ⟨h'', hrest, hbooks''⟩ :=
        recordSamples_posts channelId channel now samples hbuffer' hbooks'
      exact ⟨h'', by simpa [recordSamples] using hposts.append hrest, hbooks''⟩

/-- What a tick leaves alone. -/
structure Frame (s s' : TelemetryRuntime) : Prop where
  config : s'.config = s.config
  channels : s'.channels = s.channels
  uploader : s'.uploader = s.uploader
  storeOpen : s'.storeOpen = s.storeOpen
  capacity : s'.buffer.map RingBuffer.capacity = s.buffer.map RingBuffer.capacity

theorem Frame.refl (s : TelemetryRuntime) : Frame s s := ⟨rfl, rfl, rfl, rfl, rfl⟩

theorem Frame.trans {s s' s'' : TelemetryRuntime} (h : Frame s s') (h' : Frame s' s'') :
    Frame s s'' :=
  ⟨h'.config.trans h.config, h'.channels.trans h.channels, h'.uploader.trans h.uploader,
    h'.storeOpen.trans h.storeOpen, h'.capacity.trans h.capacity⟩

theorem Frame.buffer_isSome {s s' : TelemetryRuntime} (h : Frame s s')
    (hbuffer : s.buffer.isSome = true) : s'.buffer.isSome = true := by
  rwa [← Option.isSome_map (f := RingBuffer.capacity), h.capacity, Option.isSome_map]

/-- What polling a channel leaves alone. -/
structure PollFrame (s s' : TelemetryRuntime) : Prop extends Frame s s' where
  store : s'.store = s.store
  retryAttempt : s'.retryAttempt = s.retryAttempt
  nextRetryAt : s'.nextRetryAt = s.nextRetryAt
  acceptedUploadCount : s'.acceptedUploadCount = s.acceptedUploadCount

theorem PollFrame.refl (s : TelemetryRuntime) : PollFrame s s :=
  ⟨.refl s, rfl, rfl, rfl, rfl⟩

theorem PollFrame.trans {s s' s'' : TelemetryRuntime} (h : PollFrame s s')
    (h' : PollFrame s' s'') : PollFrame s s'' :=
  ⟨h.toFrame.trans h'.toFrame, h'.store.trans h.store,
    h'.retryAttempt.trans h.retryAttempt, h'.nextRetryAt.trans h.nextRetryAt,
    h'.acceptedUploadCount.trans h.acceptedUploadCount⟩

theorem recordSamples_frame (channelId : Bytes) (channel : ChannelConfig) (now : ℤ) :
    ∀ (samples : List Sample) (s : TelemetryRuntime),
      PollFrame s (s.recordSamples channelId channel now samples).2
  | [], s => .refl s
  | sample :: samples, s => by
      have hrecord : PollFrame s (s.recordSample channelId channel now sample).2 :=
        ⟨⟨rfl, rfl, rfl, rfl, by
          cases hb : s.buffer with
          | none => simp [recordSample, hb]
          | some b => simp [recordSample, hb]⟩, rfl, rfl, rfl, rfl⟩
      exact hrecord.trans (recordSamples_frame channelId channel now samples _)

theorem pollChannel_frame (channelId : Bytes) (result : ReadResult) (now : ℤ)
    (s : TelemetryRuntime) : PollFrame s (s.pollChannel channelId result now).2 := by
  unfold pollChannel
  split
  · exact .refl s
  · exact recordSamples_frame _ _ _ _ _

theorem pollChannels_frame (input : TickInput) :
    ∀ (polls : List Bytes) (index : ℕ) (s : TelemetryRuntime),
      PollFrame s (s.pollChannels input index polls).2
  | [], _, s => .refl s
  | _ :: polls, index, s =>
      (pollChannel_frame _ _ _ s).trans (pollChannels_frame input polls (index + 1) _)

theorem pollChannel_posts {s : TelemetryRuntime} {h : Ledger Place ℕ} (channelId : Bytes)
    (result : ReadResult) (now : ℤ) (hbuffer : s.buffer.isSome = true) (hbooks : s.Booked h) :
    ∃ h', Posts h (journal (s.pollChannel channelId result now).1) h' ∧
      (s.pollChannel channelId result now).2.Booked h' := by
  unfold pollChannel
  split
  · exact ⟨h, .nil h, hbooks⟩
  · exact recordSamples_posts _ _ _ _ hbuffer hbooks

theorem pollChannels_posts (input : TickInput) :
    ∀ (polls : List Bytes) (index : ℕ) {s : TelemetryRuntime} {h : Ledger Place ℕ},
      s.buffer.isSome = true → s.Booked h →
      ∃ h', Posts h (journal (s.pollChannels input index polls).1) h' ∧
        (s.pollChannels input index polls).2.Booked h'
  | [], _, _, h, _, hbooks => ⟨h, .nil h, hbooks⟩
  | channelId :: polls, index, s, h, hbuffer, hbooks => by
      obtain ⟨h', hposts, hbooks'⟩ :=
        pollChannel_posts channelId (input.reads index) (input.pollNow index) hbuffer hbooks
      obtain ⟨h'', hrest, hbooks''⟩ := pollChannels_posts input polls (index + 1)
        ((pollChannel_frame _ _ _ s).toFrame.buffer_isSome hbuffer) hbooks'
      exact ⟨h'', by simpa [pollChannels] using hposts.append hrest, hbooks''⟩

theorem pollDue_cases {input : TickInput} {s s' : TelemetryRuntime} {events : List Event}
    (h : s.pollDue input = .ok (events, s')) :
    ∃ dispatch, s.scheduler.dispatchDue add64 input.fuel input.now = .ok dispatch ∧
      events = (s.pollChannels input 0 dispatch.polls).1 ∧
      s' = { (s.pollChannels input 0 dispatch.polls).2 with scheduler := dispatch.scheduler } := by
  obtain ⟨dispatch, hdispatch, h⟩ := Abort.bind_eq_ok_iff.mp h
  cases h
  exact ⟨dispatch, hdispatch, rfl, rfl⟩

theorem pollDue_frame {input : TickInput} {s s' : TelemetryRuntime} {events : List Event}
    (h : s.pollDue input = .ok (events, s')) : PollFrame s s' := by
  obtain ⟨dispatch, -, -, rfl⟩ := pollDue_cases h
  exact { pollChannels_frame input dispatch.polls 0 s with }

theorem pollDue_posts {input : TickInput} {s s' : TelemetryRuntime} {events : List Event}
    {h : Ledger Place ℕ} (hbuffer : s.buffer.isSome = true) (hbooks : s.Booked h)
    (hpoll : s.pollDue input = .ok (events, s')) :
    ∃ h', Posts h (journal events) h' ∧ s'.Booked h' := by
  obtain ⟨dispatch, -, rfl, rfl⟩ := pollDue_cases hpoll
  exact pollChannels_posts input dispatch.polls 0 hbuffer hbooks

theorem maxBatch_pos (s : TelemetryRuntime) : 0 < s.maxBatch := by
  unfold maxBatch
  omega

/-- A flush that is due takes a batch off the buffer and uploads it. -/
theorem maybeFlush_cases {input : AttemptInput} {s s' : TelemetryRuntime}
    {events : List Event} (h : s.maybeFlush input = .ok (events, s')) :
    (s.flushDue input.now = false ∧ events = [] ∧ s' = s) ∨
      (s.flushDue input.now = true ∧ ∃ uploader buffer attempt,
        s.uploader = some uploader ∧ s.buffer = some buffer ∧
        (drain s.maxBatch buffer).1 ≠ [] ∧
        uploader.upload input.client input.faults input.sentAt (drain s.maxBatch buffer).1
          s.store = .ok attempt ∧
        events = attemptEvents .flush input.now attempt ∧
        s' = { s with
          buffer := some (drain s.maxBatch buffer).2
          store := attempt.store }.afterFlush input attempt.result) := by
  unfold maybeFlush at h
  split at h
  · next uploader buffer huploader hbuffer =>
      have hdue : s.flushDue input.now =
          s.policy.shouldFlush input.now buffer.size s.maxBatch := by
        simp [flushDue, huploader, hbuffer]
      split at h
      · next hwait =>
          cases h
          exact .inl ⟨by rw [hdue]; simpa using hwait, rfl, rfl⟩
      · next hflush =>
          rw [Bool.not_eq_true', Bool.not_eq_false] at hflush
          have hpos := UploadPolicy.shouldFlush_pos hflush
          have hne : (drain s.maxBatch buffer).1 ≠ [] := by
            rw [(drain_eq _ _).1]
            have hlength := buffer.length_residents
            have hmax := s.maxBatch_pos
            apply List.ne_nil_of_length_pos
            rw [List.length_take]
            omega
          dsimp only at h
          rw [if_neg hne, Abort.bind_eq_ok_iff] at h
          obtain ⟨attempt, hattempt, h⟩ := h
          cases h
          exact .inr ⟨by rw [hdue, hflush], uploader, buffer, attempt, huploader, hbuffer,
            hne, hattempt, rfl, rfl⟩
  · next hnone =>
      cases h
      refine .inl ⟨?_, rfl, rfl⟩
      unfold flushDue
      split
      · next huploader hbuffer => exact (hnone _ _ huploader hbuffer).elim
      · rfl

theorem maybeFlush_posts {input : AttemptInput} {s s' : TelemetryRuntime}
    {events : List Event} {h : Ledger Place ℕ} (hbooks : s.Booked h)
    (hflush : s.maybeFlush input = .ok (events, s')) :
    ∃ h', Posts h (journal events) h' ∧ s'.Booked h' := by
  rcases maybeFlush_cases hflush with
    ⟨-, rfl, rfl⟩ | ⟨-, uploader, buffer, attempt, -, hbuffer, hne, hupload, rfl, rfl⟩
  · exact ⟨h, .nil h, hbooks⟩
  · have hdrained : Books ((drain s.maxBatch buffer).1 ++ (drain s.maxBatch buffer).2.residents)
        s.store.rows h := by
      rw [drain_append]
      simpa [Booked, residents, hbuffer] using hbooks
    obtain ⟨h', hposts, hbooks'⟩ := upload_posts input.now hne hdrained hupload
    refine ⟨h', hposts, ?_⟩
    cases hresult : attempt.result <;> exact hbooks'

theorem maybeRetry_cases {countFault : Bool} {input : AttemptInput}
    {s s' : TelemetryRuntime} {events : List Event}
    (h : s.maybeRetry countFault input = .ok (events, s')) :
    ((events = [] ∨ events = [.statement (.count !countFault)]) ∧ s' = s) ∨
      ∃ uploader attempt, s.uploader = some uploader ∧ s.storeOpen = true ∧
        uploader.retryPending input.client input.faults input.sentAt s.maxBatch s.store =
          .ok attempt ∧
        events = .statement (.count !countFault) :: attemptEvents .retry input.now attempt ∧
        s' = { s with store := attempt.store }.afterRetry input attempt.result := by
  unfold maybeRetry at h
  split at h
  · cases h
    exact .inl ⟨.inl rfl, rfl⟩
  · next uploader huploader =>
      split at h
      · cases h
        exact .inl ⟨.inl rfl, rfl⟩
      · next hopen =>
          dsimp only at h
          split at h
          · cases h
            exact .inl ⟨.inr rfl, rfl⟩
          · split at h
            · cases h
              exact .inl ⟨.inr rfl, rfl⟩
            · obtain ⟨attempt, hattempt, h⟩ := Abort.bind_eq_ok_iff.mp h
              cases h
              exact .inr ⟨uploader, attempt, huploader, by simpa using hopen, hattempt, rfl,
                rfl⟩

theorem maybeRetry_posts {countFault : Bool} {input : AttemptInput}
    {s s' : TelemetryRuntime} {events : List Event} {h : Ledger Place ℕ}
    (huploader : ∀ u, s.uploader = some u → u.hasStore = s.storeOpen) (hbooks : s.Booked h)
    (hretry : s.maybeRetry countFault input = .ok (events, s')) :
    ∃ h', Posts h (journal events) h' ∧ s'.Booked h' := by
  rcases maybeRetry_cases hretry with
    ⟨hevents, rfl⟩ | ⟨uploader, attempt, hu, hopen, hattempt, rfl, rfl⟩
  · refine ⟨h, ?_, hbooks⟩
    rcases hevents with rfl | rfl <;> exact .nil h
  · have hstore : uploader.hasStore = true := (huploader uploader hu).trans hopen
    obtain ⟨h', hposts, hbooks'⟩ :=
      retryPending_posts input.now s.maxBatch hstore hbooks hattempt
    refine ⟨h', hposts, ?_⟩
    cases hresult : attempt.result <;> exact hbooks'

end TelemetryRuntime

end Bossa.Runtime
