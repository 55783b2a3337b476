import Bossa.Data.Utf8
import Bossa.Runtime.Progress

/-!
# The texts of the payloads

The texts of a sample are cut off at a number of bytes when it is stored, and a payload
cannot be built from a text that is not valid UTF-8. So the payloads of a runtime are built
whatever its calls are, and no tick throws, exactly when no text is cut within a character.
-/

namespace Bossa.Storage.LocalStore

open Telemetry Sync

/-- Every row of the database files has the property. -/
def AllRows (P : PendingUpload → Prop) (s : LocalStore) : Prop :=
  ∀ path, ∀ r ∈ (s.files path).rows, P r

variable {P : PendingUpload → Prop} {s : LocalStore}

theorem AllRows.rows (h : s.AllRows P) : ∀ r ∈ s.rows, P r := by
  unfold LocalStore.rows
  split
  · exact fun _ hr => nomatch hr
  · exact h _

theorem forall_rows_update {files : Bytes → PendingUploads} {path : Bytes} {t : PendingUploads}
    (hfiles : ∀ path, ∀ r ∈ (files path).rows, P r) (ht : ∀ r ∈ t.rows, P r) :
    ∀ path', ∀ r ∈ (Function.update files path t path').rows, P r := by
  intro path' r hr
  by_cases hpath : path' = path
  · subst hpath
    rw [Function.update_self] at hr
    exact ht r hr
  · rw [Function.update_of_ne hpath] at hr
    exact hfiles path' r hr

theorem AllRows.open (h : s.AllRows P) (fault : Option OpenFault) (path : Bytes) :
    (s.open fault path).2.AllRows P := by
  unfold LocalStore.open
  dsimp only
  split
  · exact h
  · split
    · exact h
    · exact h
    · change ∀ path', ∀ r ∈ (openFile s.files path path').rows, P r
      unfold openFile
      split
      · exact forall_rows_update h fun _ hr => nomatch hr
      · exact h

theorem AllRows.enqueue (h : s.AllRows P) {sample : StoredSample}
    (hsample : ∀ id, P (.ofSample id sample)) (fault : Option Bytes) :
    (s.enqueue fault sample).2.AllRows P := by
  unfold LocalStore.enqueue
  split
  · exact h
  · next path _ =>
      split
      · exact h
      · have hinserted : ∀ r ∈ ((s.files path).insert sample).rows, P r := by
          rw [PendingUploads.insert_rows, List.forall_mem_append]
          exact ⟨h path, List.forall_mem_singleton.mpr (hsample _)⟩
        exact forall_rows_update h hinserted

theorem AllRows.acknowledge (h : s.AllRows P) (fault : Option Bytes) (id : ℤ) :
    (s.acknowledge fault id).2.AllRows P := by
  unfold LocalStore.acknowledge
  split
  · exact h
  · next path _ =>
      split
      · exact h
      · have hdeleted : ∀ r ∈ ((s.files path).delete id).rows, P r := fun r hr =>
          h path r (List.mem_of_mem_filter hr)
        exact forall_rows_update h hdeleted

theorem AllRows.persistSamples :
    ∀ (samples : List StoredSample) (fault : ℕ → Option Bytes) {s : LocalStore}, s.AllRows P →
      (∀ y ∈ samples, ∀ id, P (.ofSample id y)) →
        (HttpUploader.persistSamples fault samples s).2.2.AllRows P
  | [], _, _, h, _ => h
  | y :: samples, fault, s, h, hsamples => by
      rw [List.forall_mem_cons] at hsamples
      exact AllRows.persistSamples samples (fun i => fault (i + 1))
        (h.enqueue hsamples.1 (fault 0)) hsamples.2

theorem AllRows.acknowledgeRows :
    ∀ (rows : List PendingRow) (fault : ℕ → Option Bytes) {s : LocalStore}, s.AllRows P →
      (HttpUploader.acknowledgeRows fault rows s).2.AllRows P
  | [], _, _, h => h
  | row :: rows, fault, _, h =>
      AllRows.acknowledgeRows rows (fun i => fault (i + 1)) (h.acknowledge (fault 0) row.id)

variable {u : HttpUploader} {client : HttpClient} {faults : StoreFaults} {sentAt : ℤ}
  {attempt : Attempt}

theorem AllRows.upload (h : s.AllRows P) {samples : List StoredSample} (hne : samples ≠ [])
    (hsamples : ∀ y ∈ samples, ∀ id, P (.ofSample id y))
    (hupload : u.upload client faults sentAt samples s = .ok attempt) :
    attempt.store.AllRows P := by
  obtain ⟨-, -, -, -, ⟨-, -, hstore⟩ | ⟨-, -, hstore⟩⟩ := HttpUploader.upload_cases hne hupload
  · rwa [hstore]
  · rw [hstore, HttpUploader.persistAll]
    split
    · exact AllRows.persistSamples samples faults.insert h hsamples
    · exact h

theorem AllRows.retryPending (h : s.AllRows P) {maxBatch : ℕ}
    (hretry : u.retryPending client faults sentAt maxBatch s = .ok attempt) :
    attempt.store.AllRows P := by
  cases hstore : u.hasStore with
  | false =>
      simp only [HttpUploader.retryPending, hstore, Bool.not_false, if_true] at hretry
      cases hretry
      exact h
  | true =>
      rcases HttpUploader.retryPending_cases hstore hretry with
        ⟨-, rfl⟩ | ⟨-, -, -, -, -, ⟨-, -, hsame⟩ | ⟨-, -, hdone⟩⟩
      · exact h
      · rwa [hsame]
      · rw [hdone]
        exact AllRows.acknowledgeRows _ _ h

end Bossa.Storage.LocalStore

namespace Bossa.Telemetry.Scheduler

variable {add : Addition}

theorem catchUp_ne_exception (hadd : ∀ a b, add a b ≠ .error .exception) (period now : ℤ)
    (fuel : ℕ) (next : ℤ) : catchUp add period now fuel next ≠ .error .exception := by
  induction fuel generalizing next with
  | zero =>
      intro h
      cases h
  | succ fuel ih =>
      intro h
      rw [catchUp] at h
      split at h
      · rcases Abort.bind_eq_error_iff.mp h with hfirst | ⟨next, -, h⟩
        · exact hadd _ _ hfirst
        · exact ih next h
      · cases h

theorem advance_ne_exception (hadd : ∀ a b, add a b ≠ .error .exception) (fuel : ℕ) (now : ℤ)
    (channel : ChannelState) : advance add fuel now channel ≠ .error .exception := by
  intro h
  rcases Abort.bind_eq_error_iff.mp h with hfirst | ⟨next, -, h⟩
  · exact hadd _ _ hfirst
  · rcases Abort.bind_eq_error_iff.mp h with hcatch | ⟨next, -, h⟩
    · exact catchUp_ne_exception hadd _ _ _ _ hcatch
    · dsimp only at h
      split at h
      · rcases Abort.bind_eq_error_iff.mp h with hlast | ⟨next, -, h⟩
        · exact hadd _ _ hlast
        · cases h
      · cases h

/-- The scheduler throws nothing: its sums may overflow and its loops may not end. -/
theorem dispatchChannels_ne_exception (hadd : ∀ a b, add a b ≠ .error .exception) (fuel : ℕ)
    (now : ℤ) (channels : List ChannelState) :
    dispatchChannels add fuel now channels ≠ .error .exception := by
  induction channels with
  | nil =>
      intro h
      cases h
  | cons channel channels ih =>
      intro h
      rw [dispatchChannels] at h
      split at h
      · rcases Abort.bind_eq_error_iff.mp h with hrest | ⟨_, -, h⟩
        · exact ih hrest
        · cases h
      · rcases Abort.bind_eq_error_iff.mp h with hadvance | ⟨_, -, h⟩
        · exact advance_ne_exception hadd fuel now channel hadvance
        · rcases Abort.bind_eq_error_iff.mp h with hrest | ⟨_, -, h⟩
          · exact ih hrest
          · cases h

end Bossa.Telemetry.Scheduler

namespace Bossa.Runtime

open Bossa.Core Telemetry Storage Sync

/-- Valid UTF-8 without a NUL. -/
structure SourceText (b : Bytes) : Prop where
  valid : Bytes.validUtf8 b = true
  noNul : ∀ c ∈ b, c ≠ 0

/-- The texts of a sample as a driver should return them. -/
structure SourceTexts (x : Sample) : Prop where
  channelId : SourceText x.channelId
  unit : SourceText x.unit

/-- The texts that are stored are valid UTF-8, and the beginnings of those of the sample. -/
structure KeepsTexts (x : Sample) (y : StoredSample) : Prop where
  valid : ValidText y
  channelId : y.channelId.cString <+: x.channelId
  unit : y.unit.cString <+: x.unit

/-- Neither text is cut within a character when the sample is stored. -/
structure CutsBetween (x : Sample) : Prop where
  channelId : Bytes.CutsBetween 63 x.channelId
  unit : Bytes.CutsBetween 31 x.unit

/-- What is stored of a sample of the set. -/
def StoredFrom (S : Set Sample) (y : StoredSample) : Prop :=
  ∃ x ∈ S, ∃ p, y = .fromSample x p

/-- The row that is inserted for what is stored of a sample of the set. -/
def PersistedFrom (S : Set Sample) (r : PendingUpload) : Prop :=
  ∃ y id, StoredFrom S y ∧ r = .ofSample id y

/-- The drivers return samples of the set. -/
def TickInput.ReadsFrom (S : Set Sample) (input : TickInput) : Prop :=
  ∀ i, ∀ x ∈ (input.reads i).samples, x ∈ S

/-- A call with the node id and with samples of the set. -/
def Call.From (nodeId : Bytes) (S : Set Sample) : Call → Prop
  | .configure _ config => config.node.id = nodeId
  | .tick t => t.input.ReadsFrom S

/-- What should hold of the samples that drivers return: what is stored of them, in the
buffer and in the table, keeps their texts, and neither a payload nor an upload, a retry or a
tick throws that is made of them. -/
structure PayloadsBuild (nodeId : Bytes) (S : Set Sample) : Prop where
  stored : ∀ x ∈ S, ∀ p, KeepsTexts x (.fromSample x p)
  peeked : ∀ x ∈ S, ∀ p (store : LocalStore) fault fault' maxCount,
    ∀ row ∈ (store.enqueue fault (.fromSample x p)).2.peekBatch fault' maxCount,
      row ∈ store.peekBatch none maxCount ∨ KeepsTexts x row.sample
  payload : ∀ samples sentAt, (∀ y ∈ samples, StoredFrom S y) →
    ∃ body, buildPayload nodeId sentAt samples = .ok body
  upload : ∀ (u : HttpUploader) client faults sentAt samples store, u.nodeId = nodeId →
    (∀ y ∈ samples, StoredFrom S y) →
      ∃ attempt, u.upload client faults sentAt samples store = .ok attempt
  retry : ∀ (u : HttpUploader) client faults sentAt maxBatch (store : LocalStore),
    u.nodeId = nodeId → (∀ r ∈ store.rows, PersistedFrom S r) →
      ∃ attempt, u.retryPending client faults sentAt maxBatch store = .ok attempt
  tick : ∀ files calls s input, (∀ path, ∀ r ∈ (files path).rows, PersistedFrom S r) →
    Calls (.new files) calls s → (∀ call ∈ calls, call.From nodeId S) → input.ReadsFrom S →
      s.tick input ≠ .error .exception

section Texts

variable {nodeId : Bytes} {S : Set Sample} {x : Sample} {y : StoredSample}

theorem SourceText.of_all {b : Bytes} (hvalid : Bytes.validUtf8 b = true)
    (hall : (b.all fun c => c != 0) = true) : SourceText b :=
  ⟨hvalid, fun c hc => bne_iff_ne.mp (List.all_eq_true.mp hall c hc)⟩

theorem SourceText.cString_take {b : Bytes} (h : SourceText b) (n : ℕ) :
    Bytes.cString (b.take n) = b.take n :=
  Bytes.cString_eq_self fun c hc => h.noNul c (List.mem_of_mem_take hc)

theorem SourceText.cString_copyTruncated {b : Bytes} (h : SourceText b) (n : ℕ) :
    (copyTruncated n b).cString = b.take n :=
  h.cString_take n

/-- What is stored of a sample keeps its texts exactly when neither is cut within a
character. -/
theorem keepsTexts_iff (hx : SourceTexts x) (p : Priority) :
    KeepsTexts x (.fromSample x p) ↔ CutsBetween x := by
  have hvalid : ValidText (.fromSample x p) ↔ CutsBetween x := by
    have hchannel := Bytes.validUtf8_take_iff hx.channelId.valid 63
    have hunit := Bytes.validUtf8_take_iff hx.unit.valid 31
    unfold ValidText StoredSample.fromSample
    rw [hx.channelId.cString_copyTruncated, hx.unit.cString_copyTruncated, hchannel, hunit]
    exact ⟨fun h => ⟨h.1, h.2⟩, fun h => ⟨h.channelId, h.unit⟩⟩
  constructor
  · exact fun h => hvalid.mp h.valid
  · intro h
    refine ⟨hvalid.mpr h, ?_, ?_⟩
    · exact (hx.channelId.cString_copyTruncated 63).symm ▸ List.take_prefix _ _
    · exact (hx.unit.cString_copyTruncated 31).symm ▸ List.take_prefix _ _

theorem KeepsTexts.toRow_ofSample (h : KeepsTexts x y) (id : ℤ) :
    KeepsTexts x (PendingUpload.ofSample id y).toRow.sample := by
  refine ⟨(validText_toRow_ofSample id y).mpr h.valid, ?_, ?_⟩
  · simpa only [PendingUpload.toRow, PendingUpload.ofSample,
      CharArray.cString_ofPrefix_cString] using h.channelId
  · simpa only [PendingUpload.toRow, PendingUpload.ofSample,
      CharArray.cString_ofPrefix_cString] using h.unit

/-- After an insertion a query reads rows of before and the new one. -/
theorem mem_peekBatch_enqueue {store : LocalStore} {fault : Option Bytes} {fault' : Option ℕ}
    {maxCount : ℕ} {row : PendingRow}
    (hrow : row ∈ (store.enqueue fault y).2.peekBatch fault' maxCount) :
    row ∈ store.peekBatch none maxCount ∨ ∃ id, row = (PendingUpload.ofSample id y).toRow := by
  obtain ⟨count, hcount, hpeek⟩ := (store.enqueue fault y).2.peekBatch_eq fault' maxCount
  rw [hpeek, List.mem_map] at hrow
  obtain ⟨r, hr, rfl⟩ := hrow
  have hold : ∀ r ∈ store.rows.take count, r.toRow ∈ store.peekBatch none maxCount := by
    intro r hr
    have hpos : maxCount ≠ 0 := by
      rintro rfl
      rw [Nat.le_zero.mp hcount, List.take_zero] at hr
      cases hr
    rw [LocalStore.peekBatch, if_neg hpos]
    exact List.mem_map_of_mem (List.take_subset_take_left _ hcount hr)
  rcases (store.enqueue_eq fault y).2 with ⟨-, hsame⟩ | ⟨-, id, hnew⟩
  · rw [hsame] at hr
    exact .inl (hold r hr)
  · rw [hnew, List.take_append, List.mem_append] at hr
    rcases hr with hr | hr
    · exact .inl (hold r hr)
    · exact .inr ⟨id, by rw [List.mem_singleton.mp (List.mem_of_mem_take hr)]⟩

theorem StoredFrom.validText (hS : ∀ x ∈ S, SourceTexts x) (hcuts : ∀ x ∈ S, CutsBetween x)
    (h : StoredFrom S y) : ValidText y := by
  obtain ⟨x, hx, p, rfl⟩ := h
  exact ((keepsTexts_iff (hS x hx) p).mpr (hcuts x hx)).valid

theorem PersistedFrom.validText (hS : ∀ x ∈ S, SourceTexts x)
    (hcuts : ∀ x ∈ S, CutsBetween x) {r : PendingUpload} (h : PersistedFrom S r) :
    ValidText r.toRow.sample := by
  obtain ⟨y, id, hy, rfl⟩ := h
  exact (validText_toRow_ofSample id y).mpr (hy.validText hS hcuts)

end Texts

namespace TelemetryRuntime

/-- What a runtime would send has the node id and was stored from samples of the set. -/
structure SendsFrom (nodeId : Bytes) (S : Set Sample) (s : TelemetryRuntime) : Prop where
  node : ∀ u, s.uploader = some u → u.nodeId = nodeId
  residents : ∀ y ∈ s.residents, StoredFrom S y
  rows : s.store.AllRows (PersistedFrom S)

variable {nodeId : Bytes} {S : Set Sample} {s s' : TelemetryRuntime} {events : List Event}

theorem SendsFrom.new {files : Bytes → PendingUploads}
    (hfiles : ∀ path, ∀ r ∈ (files path).rows, PersistedFrom S r) :
    (TelemetryRuntime.new files).SendsFrom nodeId S where
  node := nofun
  residents := nofun
  rows := hfiles

theorem store_configure (input : ConfigureInput) (config : Config) (s : TelemetryRuntime) :
    (s.configure input config).2.store =
      ((s.reset input config).openStore input).2.store := by
  obtain ⟨policy, bindings, lastError, hchannels⟩ :=
    configureChannels_eq input config.channels 0 ((s.reset input config).openStore input).2
  unfold TelemetryRuntime.configure
  dsimp only
  split
  · rfl
  · split
    · rw [hchannels]
    · rw [hchannels]

theorem AllRows.openStore {P : PendingUpload → Prop} (h : s.store.AllRows P)
    (input : ConfigureInput) : (s.openStore input).2.store.AllRows P := by
  obtain ⟨-, lastError, hopen⟩ := openStore_spec input s
  rw [hopen]
  dsimp only
  split
  · exact h
  · exact h.open _ _

theorem nodeId_configure {input : ConfigureInput} {config : Config} {u : HttpUploader}
    (h : (s.configure input config).2.uploader = some u) : u.nodeId = config.node.id := by
  cases hresult : (s.configure input config).1 with
  | true =>
      obtain ⟨hconfig, -, -, huploader⟩ := configure_spec (Prod.ext hresult rfl :
        s.configure input config = (true, (s.configure input config).2))
      rw [huploader, createUploader] at h
      split at h
      · cases h
        exact congrArg (fun c => c.node.id) hconfig
      · cases h
  | false =>
      have hhalf := configure_halfConfigured (Prod.ext hresult rfl :
        s.configure input config = (false, (s.configure input config).2))
      rw [hhalf.uploader_eq] at h
      cases h

theorem SendsFrom.configure (h : s.SendsFrom nodeId S) (input : ConfigureInput) {config : Config}
    (hconfig : config.node.id = nodeId) : (s.configure input config).2.SendsFrom nodeId S where
  node := fun _ hu => (nodeId_configure hu).trans hconfig
  residents := by
    obtain ⟨_, _, _, _, _, _, _, heq⟩ := configure_eq input config s
    rw [heq]
    exact nofun
  rows := by
    rw [store_configure]
    exact AllRows.openStore (s := s.reset input config) h.rows input

theorem SendsFrom.of_pollDue {input : TickInput} (hs : s.SendsFrom nodeId S)
    (hreads : input.ReadsFrom S) (h : s.pollDue input = .ok (events, s')) :
    s'.SendsFrom nodeId S where
  node := fun u hu => hs.node u ((pollDue_frame h).uploader ▸ hu)
  residents := forall_residents_pollDue hs.residents (fun i x hx p => ⟨x, hreads i x hx, p, rfl⟩) h
  rows := by
    rw [(pollDue_frame h).store]
    exact hs.rows

theorem SendsFrom.of_maybeFlush {input : AttemptInput} (hs : s.SendsFrom nodeId S)
    (h : s.maybeFlush input = .ok (events, s')) : s'.SendsFrom nodeId S := by
  have hframe := maybeFlush_frame h
  have hrest := residents_maybeFlush_subset h
  rcases maybeFlush_cases h with
    ⟨-, -, rfl⟩ | ⟨-, uploader, buffer, attempt, -, hbuffer, hne, hupload, -, rfl⟩
  · exact hs
  · have hbuffered : ∀ y ∈ buffer.residents, StoredFrom S y := by
      simpa [TelemetryRuntime.residents, hbuffer] using hs.residents
    have hbatch : ∀ y ∈ (drain s.maxBatch buffer).1, StoredFrom S y := by
      intro y hy
      rw [(drain_eq _ _).1] at hy
      exact hbuffered y (List.mem_of_mem_take hy)
    have hrows := hs.rows.upload hne (fun y hy id => ⟨y, id, hbatch y hy, rfl⟩) hupload
    refine ⟨fun u hu => hs.node u (hframe.uploader ▸ hu),
      fun y hy => hs.residents y (hrest hy), ?_⟩
    cases attempt.result <;> exact hrows

theorem SendsFrom.of_maybeRetry {countFault : Bool} {input : AttemptInput}
    (hs : s.SendsFrom nodeId S) (h : s.maybeRetry countFault input = .ok (events, s')) :
    s'.SendsFrom nodeId S := by
  rcases maybeRetry_cases h with ⟨-, rfl⟩ | ⟨uploader, attempt, -, -, hretry, -, rfl⟩
  · exact hs
  · have hrows := hs.rows.retryPending hretry
    cases attempt.result <;> exact ⟨hs.node, hs.residents, hrows⟩

theorem SendsFrom.tick {input : TickInput} (hs : s.SendsFrom nodeId S)
    (hreads : input.ReadsFrom S) (h : s.tick input = .ok (events, s')) :
    s'.SendsFrom nodeId S := by
  rcases tick_cases h with
    ⟨-, -, rfl⟩ | ⟨-, _, polled, _, flushed, _, hpoll, hflush, hretry, -⟩
  · exact hs
  · exact ((hs.of_pollDue hreads hpoll).of_maybeFlush hflush).of_maybeRetry hretry

theorem SendsFrom.calls {files : Bytes → PendingUploads} {calls : List Call}
    (hfiles : ∀ path, ∀ r ∈ (files path).rows, PersistedFrom S r)
    (hrun : Calls (.new files) calls s) (hcalls : ∀ call ∈ calls, call.From nodeId S) :
    s.SendsFrom nodeId S := by
  apply Transition.Run.invariant (P := SendsFrom nodeId S) (Q := Call.From nodeId S) ?_ hrun
    hcalls (.new hfiles)
  intro s call s' hcall hs hstep
  cases call with
  | configure input config =>
      rw [show s' = _ from hstep]
      exact hs.configure input hcall
  | tick t => exact hs.tick hcall hstep.2

theorem Sendable.tick_ne_exception {input : TickInput} (hs : s.Sendable)
    (hreads : input.ValidTexts) : s.tick input ≠ .error .exception := by
  intro h
  cases hpoll : s.pollDue input with
  | ok r =>
      obtain ⟨r, hr⟩ := hs.tick_isOk hreads ⟨_, hpoll⟩
      rw [hr] at h
      cases h
  | error e =>
      have hthrown : s.pollDue input ≠ .error .exception := by
        intro hpoll
        rcases Abort.bind_eq_error_iff.mp hpoll with hdispatch | ⟨_, -, hpure⟩
        · refine Scheduler.dispatchChannels_ne_exception ?_ _ _ _ hdispatch
          intro a b
          unfold add64
          split <;> exact nofun
        · cases hpure
      unfold TelemetryRuntime.tick at h
      rw [hpoll] at h hthrown
      split at h
      · cases h
      · cases h
        exact hthrown rfl

end TelemetryRuntime

open TelemetryRuntime

section Payloads

variable {nodeId : Bytes} {S : Set Sample}

/-- The payloads of samples whose texts are valid UTF-8 without a NUL are built exactly when
the node id is valid UTF-8 and no text of the samples is cut within a character. -/
theorem payloadsBuild_iff (hS : ∀ x ∈ S, SourceTexts x) :
    PayloadsBuild nodeId S ↔ Bytes.validUtf8 nodeId = true ∧ ∀ x ∈ S, CutsBetween x := by
  constructor
  · intro h
    obtain ⟨body, hbody⟩ := h.payload [] 0 fun _ hy => nomatch hy
    exact ⟨(buildPayload_eq_ok_iff.mp hbody).1.1,
      fun x hx => (keepsTexts_iff (hS x hx) .normal).mp (h.stored x hx .normal)⟩
  · rintro ⟨hnode, hcuts⟩
    have hstored : ∀ y, StoredFrom S y → ValidText y := fun y hy => hy.validText hS hcuts
    refine ⟨?_, ?_, ?_, ?_, ?_, ?_⟩
    · exact fun x hx p => (keepsTexts_iff (hS x hx) p).mpr (hcuts x hx)
    · intro x hx p store fault fault' maxCount row hrow
      refine (mem_peekBatch_enqueue hrow).imp_right ?_
      rintro ⟨id, rfl⟩
      exact ((keepsTexts_iff (hS x hx) p).mpr (hcuts x hx)).toRow_ofSample id
    · intro samples sentAt hsamples
      exact ⟨_, buildPayload_eq_ok_iff.mpr ⟨⟨hnode, fun y hy => hstored y (hsamples y hy)⟩, rfl⟩⟩
    · rintro u client faults sentAt samples store rfl hsamples
      exact HttpUploader.upload_isOk ⟨hnode, fun y hy => hstored y (hsamples y hy)⟩
    · rintro u client faults sentAt maxBatch store rfl hrows
      exact HttpUploader.retryPending_isOk hnode fun r hr => (hrows r hr).validText hS hcuts
    · intro files calls s input hfiles hrun hcalls hreads
      have hsends := SendsFrom.calls hfiles hrun hcalls
      refine Sendable.tick_ne_exception ⟨fun u hu => ?_, ?_, ?_⟩ fun i x hx => ?_
      · rw [hsends.node u hu]
        exact hnode
      · exact fun y hy => hstored y (hsends.residents y hy)
      · exact fun r hr => (hsends.rows.rows r hr).validText hS hcuts
      · exact hstored _ ⟨x, hreads i x hx, .normal, rfl⟩

end Payloads

def unitSample (unit : Bytes) : Sample where
  channelId := Bytes.ascii "t"
  value := .finite 20
  timestamp := 0
  unit := unit
  quality := .good
  origin := 0

/-- The payloads of a thermometer are built: its id and its unit are short. -/
theorem payloadsBuild_iff_celsius :
    PayloadsBuild (Bytes.ascii "edge-1") {unitSample (Bytes.ascii "celsius")} := by
  refine (payloadsBuild_iff fun x hx => ?_).mpr ⟨by decide, fun x hx => ?_⟩
  · rw [Set.mem_singleton_iff.mp hx]
    exact ⟨.of_all (by decide) (by decide), .of_all (by decide) (by decide)⟩
  · rw [Set.mem_singleton_iff.mp hx]
    exact ⟨by decide, by decide⟩

/-- A unit of sixteen characters of two bytes is cut within the last one, and its payload
cannot be built. -/
theorem not_payloadsBuild_two_byte_characters :
    ¬ ∀ (nodeId : Bytes) (S : Set Sample), Bytes.validUtf8 nodeId = true →
      (∀ x ∈ S, SourceTexts x) → PayloadsBuild nodeId S := by
  intro hclaim
  let x := unitSample (List.replicate 16 [0xC3, 0xA9]).flatten
  have hbuild := hclaim [] {x} rfl fun x' hx' => by
    rw [Set.mem_singleton_iff.mp hx']
    exact ⟨.of_all (by decide) (by decide), .of_all (by decide) (by decide)⟩
  obtain ⟨body, hbody⟩ := hbuild.payload [.fromSample x .normal] 0 fun y hy =>
    ⟨x, rfl, .normal, List.mem_singleton.mp hy⟩
  have hvalid := (buildPayload_eq_ok_iff.mp hbody).1.2 _ (List.mem_singleton_self _)
  exact absurd hvalid (by decide)

end Bossa.Runtime
