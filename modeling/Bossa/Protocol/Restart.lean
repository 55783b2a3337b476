import Bossa.Protocol.Delivery
import Bossa.Runtime.Calls
import Bossa.Sync.Queue

/-!
# Delivery across restarts

The process of the edge may end at any time, also in the middle of a flush or a retry:
the request then has its fate, and of the statements that follow some are executed. It
is started again with the database files that it has left, and while it runs it may be
told to reload its configuration. A file is opened again under its path, so what
flushes have taken outlives the process: what a crash can cost is in the ring buffer
or in the batch of the flush that it interrupts.
-/

namespace Bossa.Runtime.TelemetryRuntime

open Bossa.Core Storage

/-- Whether it succeeds or not, `configure` opens the store of the configuration, and an
uploader that it builds posts for the node of the configuration. -/
theorem configure_store {input : ConfigureInput} {config : Config} {s : TelemetryRuntime}
    (hpath : config.localStorage.path ≠ []) :
    (s.configure input config).2.store =
        (s.store.open input.openFault config.localStorage.path).2 ∧
      ∀ u, (s.configure input config).2.uploader = some u →
        u.nodeId = config.node.id ∧ u.hasStore = true ∧
          (s.configure input config).2.store.db = some config.localStorage.path := by
  cases hconfigure : s.configure input config with
  | mk ok t =>
      cases ok with
      | false =>
          have hhalf := configure_halfConfigured hconfigure
          refine ⟨hhalf.store_eq.trans (if_neg hpath), fun u hu => ?_⟩
          cases hhalf.uploader_eq.symm.trans hu
      | true =>
          obtain ⟨hconfig, -, ⟨hopen, hdb⟩, huploader⟩ := configure_spec hconfigure
          have hstoreOpen : t.storeOpen = true := by simpa [hpath] using hopen
          refine ⟨?_, fun u hu => ?_⟩
          · obtain ⟨-, lastError, hopened⟩ := openStore_spec input (s.reset input config)
            obtain ⟨policy, bindings, lastError', hchannels⟩ :=
              configureChannels_eq input config.channels 0
                ((s.reset input config).openStore input).2
            unfold configure at hconfigure
            dsimp only at hconfigure
            split at hconfigure
            · cases hconfigure
            · split at hconfigure
              · cases hconfigure
              · rw [hchannels, hopened] at hconfigure
                obtain ⟨-, rfl⟩ := Prod.mk.inj hconfigure
                exact if_neg hpath
          · change t.uploader = some u at hu
            rw [huploader, createUploader] at hu
            split at hu
            · cases hu
              exact ⟨by rw [hconfig], hstoreOpen, hdb hstoreOpen⟩
            · cases hu

end Bossa.Runtime.TelemetryRuntime

namespace Bossa.Storage.LocalStore

theorem open_files (fault : Option OpenFault) {path : Bytes} (s : LocalStore)
    (hmemory : path ≠ Bytes.ascii ":memory:") :
    (s.open fault path).2.files = s.files ∧
      ((s.open fault path).2.db = none ∨ (s.open fault path).2.db = some path) := by
  unfold LocalStore.open
  dsimp only
  split
  · exact ⟨rfl, .inl rfl⟩
  · split
    · exact ⟨rfl, .inl rfl⟩
    · exact ⟨rfl, .inl rfl⟩
    · exact ⟨if_neg hmemory, .inr rfl⟩

end Bossa.Storage.LocalStore

namespace Bossa.Protocol

open Bossa.Core Telemetry Storage Sync Worker Bossa.Runtime

/-- A flush or a retry that the end of the process interrupts: the fate of its request,
and the statements that were not executed as those that fail. -/
structure Interrupted where
  route : Route
  readings : Readings
  fate : Fate
  faults : StoreFaults

/-- An event in the life of the edge: a step of the process or the arrival of a request,
a reload, the end of the process and its next start. -/
inductive Life where
  | act (action : Action)
  | reload (input : ConfigureInput) (config : Config)
  | crash (interrupted : Option Interrupted)
  | boot (input : ConfigureInput) (config : Config)

namespace System

/-- The system before the edge is started, with the database files found. -/
def off (files : Bytes → PendingUploads) (database : Database) : System :=
  { start (.new files) database with running := false }

/-- What an interrupted flush or retry has done to the runtime. -/
def interrupt (d1 : D1) (work : Interrupted) (s : System) :
    Except Abort (List Event × TelemetryRuntime) :=
  let input := { s.attemptInput d1 work.readings work.fate with faults := work.faults }
  match work.route with
  | .flush => s.runtime.maybeFlush input
  | .retry => s.runtime.maybeRetry false input

/-- An event, if it is possible. What the process had in memory ends with it. -/
def live (d1 : D1) (s : System) : Life → Option System
  | .act action => s.step d1 action
  | .reload input config =>
      if s.running then some { s with runtime := (s.runtime.configure input config).2 }
      else none
  | .crash none => if s.running then some { s with running := false } else none
  | .crash (some work) =>
      if s.running then
        some { s.finish d1 work.readings work.fate (s.interrupt d1 work) with running := false }
      else none
  | .boot input config =>
      if s.running then none
      else
        some { s with
          runtime := ((TelemetryRuntime.new s.runtime.store.files).configure input config).2
          running := true }

/-- A run of events. -/
abbrev Lives (d1 : D1) : System → List Life → System → Prop :=
  Transition.Run fun s life t => s.live d1 life = some t

end System

/-- The configuration was loaded for the node, with the database at the path. -/
def LoadedFor (node path : Bytes) (config : Config) : Prop :=
  (∃ (conversions : YamlConversions) (load : Bytes → Except Bytes Yaml) (file : ConfigFile)
    (name : Bytes), loadConfig conversions load file name = .ok config) ∧
      config.node.id = node ∧ config.localStorage.path = path

/-- The edge keeps its node and its database over the event. -/
def Life.Keeps (node path : Bytes) : Life → Prop
  | .act _ => True
  | .reload _ config => LoadedFor node path config
  | .crash _ => True
  | .boot _ config => LoadedFor node path config

namespace System

/-- The sample is in the file, with all it was to be sent with, or its key is at the
Worker. -/
def KeptAt (node path : Bytes) (s : System) (x : StoredSample) : Prop :=
  (∃ r ∈ (s.runtime.store.files path).rows, wireSample r.toRow.sample = wireSample x) ∨
    wireKey node x ∈ s.database.telemetryPoints.keys

/-- The database of the edge is closed or is the file, and an uploader posts for the node
and persists in the file. -/
structure Bound (node path : Bytes) (s : System) : Prop where
  db : s.runtime.store.db = none ∨ s.runtime.store.db = some path
  uploader : ∀ u, s.runtime.uploader = some u →
    node ≠ [] ∧ u.nodeId = node ∧ u.hasStore = true ∧ s.runtime.store.db = some path
  sent : ∀ e ∈ s.posts, Sent node e

variable {d1 : D1} {node path : Bytes} {s t : System} {readings : Readings} {fate : Fate}
  {faults : StoreFaults} {events : List Event} {runtime : TelemetryRuntime}

theorem Bound.ready (hbound : s.Bound node path) {u : HttpUploader}
    (hu : s.runtime.uploader = some u) : s.Ready node where
  uploader := fun v hv => ⟨(hbound.uploader v hv).2.1, (hbound.uploader v hv).2.2.1⟩
  db := by
    rw [(hbound.uploader u hu).2.2.2]
    exact Option.some_ne_none _
  sent := hbound.sent

theorem keptAt_iff {x : StoredSample} (hdb : s.runtime.store.db = some path) :
    s.KeptAt node path x ↔ s.Kept node x := by
  rw [KeptAt, Kept, LocalStore.rows_of_db hdb]

/-- What an attempt does to the edge, whichever of its statements fail: it keeps the
uploader and the database, its POST is of the node, and a row that it deletes was in it
and was accepted. -/
structure Attempted (d1 : D1) (node path : Bytes) (readings : Readings) (fate : Fate)
    (s : System) (posted : Option Exchange) (runtime : TelemetryRuntime) : Prop where
  uploader : runtime.uploader = s.runtime.uploader
  db : runtime.store.db = s.runtime.store.db
  sent : ∀ exchange ∈ posted, Sent node exchange
  rows : ∀ r ∈ (s.runtime.store.files path).rows, r ∈ (runtime.store.files path).rows ∨
    ∃ exchange, posted = some exchange ∧ r.toRow.sample ∈ exchange.samples ∧
      HttpUploader.interpretResponse (fate.response
        (answer d1 readings.serverNow exchange.request s.database).1) = .accepted

theorem Attempted.refl (s : System) :
    Attempted d1 node path readings fate s none s.runtime :=
  ⟨rfl, rfl, by simp, fun _ hr => .inl hr⟩

theorem maybeFlush_attempted (hbound : s.Bound node path)
    (hflush : s.runtime.maybeFlush
      { s.attemptInput d1 readings fate with faults := faults } = .ok (events, runtime)) :
    Attempted d1 node path readings fate s (events.findSome? exchange?) runtime := by
  have hframe := TelemetryRuntime.maybeFlush_frame hflush
  rcases TelemetryRuntime.maybeFlush_cases hflush with
    ⟨-, rfl, rfl⟩ | ⟨-, u, buffer, attempt, hu, -, hne, hupload, rfl, hruntime⟩
  · exact .refl s
  · obtain ⟨-, hnode, -, hdb⟩ := hbound.uploader u hu
    obtain ⟨request, hrequest, hexchange, -, hcases⟩ := HttpUploader.upload_cases hne hupload
    obtain ⟨persisted, new, -, happended⟩ := HttpUploader.upload_appended hupload
    have hkept : runtime.store = attempt.store := by
      rw [hruntime]
      cases attempt.result <;> rfl
    have hsame : attempt.store.db = s.runtime.store.db := by
      rcases hcases with ⟨-, -, hstore⟩ | ⟨-, -, hstore⟩
      · rw [hstore]
      · rw [hstore, HttpUploader.persistAll]
        split
        · exact HttpUploader.persistSamples_db _ _ _
        · rfl
    refine ⟨hframe.uploader, by rw [hkept, hsame], fun exchange hmem => ?_, fun r hr => .inl ?_⟩
    · rw [findSome?_attemptEvents, hexchange] at hmem
      cases hmem
      exact ⟨u, readings.sentAt, hnode, hrequest⟩
    · rw [hkept, ← LocalStore.rows_of_db (hsame.trans hdb), happended.rows_eq,
        LocalStore.rows_of_db hdb]
      exact List.mem_append_left _ hr

theorem maybeRetry_attempted (hbound : s.Bound node path)
    (hretry : s.runtime.maybeRetry false
      { s.attemptInput d1 readings fate with faults := faults } = .ok (events, runtime)) :
    Attempted d1 node path readings fate s (events.findSome? exchange?) runtime := by
  have hframe := TelemetryRuntime.maybeRetry_frame hretry
  rcases TelemetryRuntime.maybeRetry_cases hretry with
    ⟨hevents, rfl⟩ | ⟨u, attempt, hu, -, hattempt, rfl, hruntime⟩
  · have hnone : events.findSome? exchange? = none := by
      rcases hevents with rfl | rfl <;> rfl
    rw [hnone]
    exact .refl s
  · obtain ⟨-, hnode, hstore, hdb⟩ := hbound.uploader u hu
    have hposted : (.statement (.count !false) ::
        attemptEvents .retry readings.now attempt).findSome? exchange? = attempt.exchange :=
      findSome?_attemptEvents _ _ _
    have hkept : runtime.store = attempt.store := by
      rw [hruntime]
      cases attempt.result <;> rfl
    have hcases := HttpUploader.retryPending_cases hstore hattempt
    have hsame : attempt.store.db = s.runtime.store.db := by
      rcases hcases with ⟨-, rfl⟩ | ⟨-, request, -, -, -, ⟨-, -, heq⟩ | ⟨-, -, heq⟩⟩
      · rfl
      · rw [heq]
      · rw [heq, HttpUploader.acknowledgeRows_db]
    refine ⟨hframe.uploader, by rw [hkept, hsame], fun exchange hmem => ?_, fun r hr => ?_⟩
    · replace hmem : exchange ∈ attempt.exchange := hposted ▸ hmem
      rcases hcases with ⟨-, rfl⟩ | ⟨-, request, hrequest, hexchange, -⟩
      · cases hmem
      · rw [hexchange] at hmem
        cases hmem
        exact ⟨u, readings.sentAt, hnode, hrequest⟩
    · rw [← LocalStore.rows_of_db hdb] at hr
      rw [hkept, ← LocalStore.rows_of_db (hsame.trans hdb)]
      by_cases hmem : r ∈ attempt.store.rows
      · exact .inl hmem
      · obtain ⟨exchange, count, hexchange, hsamples, hrow, haccepted⟩ :=
          HttpUploader.exchange_of_not_mem_retryPending hattempt hr hmem
        refine .inr ⟨exchange, hposted.trans hexchange, ?_, ?_⟩
        · rw [hsamples]
          exact List.mem_map_of_mem hrow
        · rcases hcases with ⟨-, rfl⟩ | ⟨-, request, _, hsome, -, -⟩
          · cases hexchange
          · rw [hsome] at hexchange
            cases hexchange
            exact haccepted

section Attempted

variable {posted : Option Exchange}

theorem Attempted.bound (h : Attempted d1 node path readings fate s posted runtime)
    (hbound : s.Bound node path) (taken : List StoredSample) :
    ({ s with taken := taken, runtime := runtime }.deliver d1 readings fate posted).Bound
      node path where
  db := by
    rw [deliver_runtime, h.db]
    exact hbound.db
  uploader := by
    rw [deliver_runtime, h.uploader, h.db]
    exact hbound.uploader
  sent := by
    intro e he
    rw [deliver_posts] at he
    rcases List.mem_append.mp he with hold | hnew
    · exact hbound.sent e hold
    · exact h.sent e (Option.mem_toList.mp hnew)

theorem Attempted.keptAt (h : Attempted d1 node path readings fate s posted runtime)
    (taken : List StoredSample) {x : StoredSample} (hcomplete : Complete x)
    (hkept : s.KeptAt node path x) :
    ({ s with taken := taken, runtime := runtime }.deliver d1 readings fate posted).KeptAt
      node path x := by
  rcases hkept with ⟨r, hr, hwire⟩ | hkey
  · rcases h.rows r hr with hstays | ⟨exchange, rfl, hsample, hresult⟩
    · exact .inl ⟨r, by rwa [deliver_runtime], hwire⟩
    · right
      obtain ⟨rfl, haccepted⟩ := accepted_of_response hresult
      rw [← wireKey_congr hwire]
      exact key_mem_serve
        (s := { s with taken := taken, runtime := runtime, posts := s.posts ++ [exchange] })
        (h.sent exchange rfl) haccepted hsample ((complete_congr hwire).mpr hcomplete)
  · exact .inr (keys_subset_deliver _ hkey)

end Attempted

theorem exists_uploader_of_mem_batch {now : ℤ} {x : StoredSample} (hx : x ∈ s.batch now) :
    ∃ u, s.runtime.uploader = some u := by
  unfold batch at hx
  split at hx
  · cases hx
  · split at hx
    · next hdue =>
        unfold TelemetryRuntime.flushDue at hdue
        split at hdue
        · next u _ hu _ => exact ⟨u, hu⟩
        · cases hdue
    · cases hx

theorem Bound.effect (hbound : s.Bound node path) (heffect : Effect d1 s t) :
    t.Bound node path := by
  cases heffect with
  | polled hframe =>
      exact ⟨by rw [hframe.store]; exact hbound.db,
        by rw [hframe.uploader, hframe.store]; exact hbound.uploader, hbound.sent⟩
  | flushed hflush => exact (maybeFlush_attempted hbound hflush).bound hbound _
  | flushThrew _ => exact ⟨hbound.db, hbound.uploader, hbound.sent⟩
  | retried hretry => exact (maybeRetry_attempted hbound hretry).bound hbound _
  | retryThrew => exact ⟨hbound.db, hbound.uploader, hbound.sent⟩
  | served _ => exact ⟨hbound.db, hbound.uploader, hbound.sent⟩

theorem keptAt_effect (hid : Bytes.validUtf8 node = true) (hbound : s.Bound node path)
    (heffect : Effect d1 s t) (hsendable : t.Sendable)
    (hkept : ∀ x ∈ s.taken, s.KeptAt node path x) :
    ∀ x ∈ t.taken, t.KeptAt node path x := by
  have hold := taken_subset heffect
  cases heffect with
  | polled hframe =>
      intro x hx
      exact (hkept x hx).imp_left fun ⟨r, hr, hwire⟩ => ⟨r, by rwa [hframe.store], hwire⟩
  | @flushed readings fate events runtime hflush =>
      have hattempted := maybeFlush_attempted hbound hflush
      rw [Sendable, deliver_taken] at hsendable
      intro x hx
      rw [deliver_taken] at hx
      have hgood := hsendable x hx
      rcases List.mem_append.mp hx with htaken | hbatch
      · exact hattempted.keptAt _ hgood.1 (hkept x htaken)
      · obtain ⟨u, hu⟩ := exists_uploader_of_mem_batch hbatch
        obtain ⟨hnode, -, -, hdb⟩ := hbound.uploader u hu
        rw [keptAt_iff (by rw [deliver_runtime, hattempted.db, hdb])]
        exact flush_kept hnode (hbound.ready hu) hflush hbatch
          (fun y hy => (hsendable y (List.mem_append_right _ hy)).2.1) hgood.1
  | @flushThrew readings fate e hflush =>
      intro x hx
      rcases List.mem_append.mp hx with htaken | hbatch
      · exact hkept x htaken
      · -- the payload of a batch with valid texts can be built
        obtain ⟨u, hu⟩ := exists_uploader_of_mem_batch hbatch
        obtain ⟨r, hr⟩ : ∃ r, s.runtime.maybeFlush (s.attemptInput d1 readings fate) = .ok r :=
          flush_isOk (hbound.ready hu) hid
            fun y hy => (hsendable y (List.mem_append_right _ hy)).2.2
        cases hr.symm.trans hflush
  | retried hretry =>
      have hattempted := maybeRetry_attempted hbound hretry
      intro x hx
      rw [deliver_taken] at hx
      exact hattempted.keptAt _ (hsendable x (hold hx)).1 (hkept x hx)
  | retryThrew => exact hkept
  | served _ =>
      intro x hx
      exact (hkept x hx).imp_right fun hkey => keys_subset_serve _ _ hkey

theorem Bound.off (files : Bytes → PendingUploads) (database : Database) :
    (System.off files database).Bound node path where
  db := .inl rfl
  uploader := by
    intro u hu
    cases hu
  sent := by
    intro e he
    cases he

/-- A configuration of the node finds the rows in the file. -/
theorem bound_configure (hmemory : path ≠ Bytes.ascii ":memory:") {config : Config}
    (hloaded : LoadedFor node path config) (input : ConfigureInput) (s₀ : TelemetryRuntime)
    (hfiles : s₀.store.files = s.runtime.store.files) (hsent : ∀ e ∈ s.posts, Sent node e)
    (running : Bool) :
    ({ s with
        runtime := (s₀.configure input config).2, running := running } : System).Bound node path ∧
      ∀ x, s.KeptAt node path x →
        ({ s with
          runtime := (s₀.configure input config).2, running := running } : System).KeptAt
            node path x := by
  obtain ⟨⟨conversions, load, file, name, hload⟩, rfl, rfl⟩ := hloaded
  have hvalid := loadConfig_valid hload
  obtain ⟨hstore, huploader⟩ :=
    @TelemetryRuntime.configure_store input config s₀ hvalid.path_ne_nil
  obtain ⟨hopen, hdb⟩ := s₀.store.open_files input.openFault hmemory
  refine ⟨⟨by rw [hstore]; exact hdb, fun u hu => ⟨hvalid.nodeId_ne_nil, huploader u hu⟩, hsent⟩,
    fun x hx => hx.imp_left fun ⟨r, hr, hwire⟩ => ⟨r, ?_, hwire⟩⟩
  rwa [hstore, hopen, hfiles]

/-- What an event keeps of the edge and of the samples that were taken. -/
theorem live_spec (hid : Bytes.validUtf8 node = true) (hmemory : path ≠ Bytes.ascii ":memory:")
    {life : Life} (hkeeps : life.Keeps node path) (hbound : s.Bound node path)
    (hlive : s.live d1 life = some t) :
    t.Bound node path ∧ s.taken ⊆ t.taken ∧
      (t.Sendable → (∀ x ∈ s.taken, s.KeptAt node path x) →
        ∀ x ∈ t.taken, t.KeptAt node path x) := by
  cases life with
  | act action =>
      have heffect := effect_of_step hlive
      exact ⟨hbound.effect heffect, taken_subset heffect, fun hsendable hkept =>
        keptAt_effect hid hbound heffect hsendable hkept⟩
  | reload input config =>
      rw [live] at hlive
      split at hlive
      · cases hlive
        obtain ⟨hbound', hkept'⟩ :=
          bound_configure hmemory hkeeps input s.runtime rfl hbound.sent s.running
        exact ⟨hbound', List.Subset.refl _, fun _ hkept x hx => hkept' x (hkept x hx)⟩
      · cases hlive
  | boot input config =>
      rw [live] at hlive
      split at hlive
      · cases hlive
      · cases hlive
        obtain ⟨hbound', hkept'⟩ := bound_configure hmemory hkeeps input
          (.new s.runtime.store.files) rfl hbound.sent true
        exact ⟨hbound', List.Subset.refl _, fun _ hkept x hx => hkept' x (hkept x hx)⟩
  | crash interrupted =>
      cases interrupted with
      | none =>
          rw [live] at hlive
          split at hlive
          · cases hlive
            exact ⟨⟨hbound.db, hbound.uploader, hbound.sent⟩, List.Subset.refl _,
              fun _ hkept => hkept⟩
          · cases hlive
      | some work =>
          rw [live] at hlive
          split at hlive
          · cases hlive
            cases hwork : s.interrupt d1 work with
            | error e =>
                exact ⟨⟨hbound.db, hbound.uploader, hbound.sent⟩, List.Subset.refl _,
                  fun _ hkept => hkept⟩
            | ok r =>
                have hattempted : Attempted d1 node path work.readings work.fate s
                    (r.1.findSome? exchange?) r.2 := by
                  unfold interrupt at hwork
                  dsimp only at hwork
                  split at hwork
                  · exact maybeFlush_attempted hbound hwork
                  · exact maybeRetry_attempted hbound hwork
                have hbound' := hattempted.bound hbound s.taken
                have htaken : ({ s with runtime := r.2 }.deliver d1 work.readings work.fate
                    (r.1.findSome? exchange?)).taken = s.taken := deliver_taken _
                refine ⟨⟨hbound'.db, hbound'.uploader, hbound'.sent⟩, fun x hx =>
                  (congrArg (x ∈ ·) htaken).mpr hx, fun hsendable hkept x hx => ?_⟩
                have hx' : x ∈ s.taken := htaken ▸ hx
                exact hattempted.keptAt s.taken (hsendable x hx).1 (hkept x hx')
          · cases hlive

theorem Lives.keptAt {lives : List Life} (hrun : Lives d1 s lives t)
    (hkeeps : ∀ life ∈ lives, life.Keeps node path) (hid : Bytes.validUtf8 node = true)
    (hmemory : path ≠ Bytes.ascii ":memory:") (hbound : s.Bound node path)
    (hnone : s.taken = []) (hsendable : t.Sendable) :
    ∀ x ∈ t.taken, t.KeptAt node path x := by
  have hinvariant : t.Bound node path ∧ (t.Sendable → ∀ x ∈ t.taken, t.KeptAt node path x) := by
    refine Transition.Run.invariant (Q := Life.Keeps node path)
      (P := fun s => s.Bound node path ∧ (s.Sendable → ∀ x ∈ s.taken, s.KeptAt node path x))
      ?_ hrun hkeeps ⟨hbound, fun _ x hx => by simp [hnone] at hx⟩
    rintro s life t hkeeps ⟨hbound, hkept⟩ hlive
    obtain ⟨hbound', hold, hkept'⟩ := live_spec hid hmemory hkeeps hbound hlive
    exact ⟨hbound', fun hsendable =>
      hkept' hsendable (hkept fun x hx => hsendable x (hold hx))⟩
  exact hinvariant.2 hsendable

end System

section Lives

variable {d1 : D1} {node path : Bytes} {files : Bytes → PendingUploads} {database : Database}
  {lives : List Life} {t : System}

/-- What flushes have taken outlives the process. However often the process ends, also in
the middle of a flush or a retry, is started again or reloads its configuration, each
sample that a flush has taken is in the file or at the Worker, as long as the edge keeps
its node and its file and the samples that flushes have taken can be sent. The batch of a
flush that the end of the process interrupts does not count as taken. -/
theorem outlives (hrun : System.Lives d1 (.off files database) lives t)
    (hkeeps : ∀ life ∈ lives, life.Keeps node path) (hmemory : path ≠ Bytes.ascii ":memory:")
    (hid : Bytes.validUtf8 node = true) (hsendable : t.Sendable) :
    ∀ x ∈ t.taken, t.KeptAt node path x :=
  System.Lives.keptAt hrun hkeeps hid hmemory (.off files database) rfl hsendable

/-- A life with two processes. The first persists a reading and ends in the middle of a
retry that the Worker has accepted; the second sends the row again. -/
def twoProcesses : List Life :=
  [.boot deploymentInput (deploymentConfig "1" "remote"),
    .act (.poll (deploymentTick 1 (some 1) 0 0)),
    .act (.flush ⟨1000000000, 1000000000, 1000000000, Bytes.ascii "now"⟩
      (.requestLost timedOut)),
    .crash (some ⟨.retry, ⟨10000000000, 10000000000, 10000000000, Bytes.ascii "now"⟩, .delivered,
      { delete := fun _ => some [] }⟩),
    .boot deploymentInput (deploymentConfig "1" "remote"),
    .act (.retry ⟨0, 20000000000, 0, Bytes.ascii "later"⟩ .delivered)]

theorem outlives_two_processes :
    ∃ t, System.Lives D1.plain (.off (fun _ => .empty) .empty) twoProcesses t ∧
      t.taken ≠ [] ∧ t.accepted.length = 2 ∧
      (t.runtime.store.files (deploymentConfig "1" "remote").localStorage.path).rows = [] ∧
      ∀ x ∈ t.taken, t.KeptAt (deploymentConfig "1" "remote").node.id
        (deploymentConfig "1" "remote").localStorage.path x := by
  have hcheck : ((twoProcesses.foldlM (System.live .plain)
      (.off (fun _ => .empty) .empty)).any fun t =>
      decide (t.taken ≠ [] ∧ t.accepted.length = 2 ∧
        (t.runtime.store.files (deploymentConfig "1" "remote").localStorage.path).rows = [] ∧
        ∀ x ∈ t.taken, Complete x ∧ x.value.isFinite = true ∧ ValidText x)) = true := by
    decide +kernel
  obtain ⟨t, hrun, ht⟩ := Option.any_eq_true _ _ |>.mp hcheck
  obtain ⟨htaken, haccepted, hrows, hsendable⟩ := of_decide_eq_true ht
  have hloaded : LoadedFor (deploymentConfig "1" "remote").node.id
      (deploymentConfig "1" "remote").localStorage.path (deploymentConfig "1" "remote") :=
    ⟨⟨_, _, _, _, deploymentResult_one_remote⟩, rfl, rfl⟩
  refine ⟨t, .of_foldlM hrun, htaken, haccepted, hrows, outlives (.of_foldlM hrun) ?_
    (by decide +kernel) (by decide +kernel) hsendable⟩
  simp [twoProcesses, Life.Keeps, hloaded]

end Lives

end Bossa.Protocol
