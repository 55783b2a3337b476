import Bossa.Core.Response
import Bossa.Runtime.Service
import Bossa.Runtime.Texts
import Bossa.Transition.Simulation

/-!
# The daemon

`main` of `src/daemon_main.cpp`: the flags and the loop of `core/service.cpp` around the
`EdgeService`. A signal can be delivered between any two steps, also while `reload()` or
`loop()` is being executed; it writes a flag and nothing else, so the two bodies take their
effect when they return. An exception that leaves one of them ends the process.

Seen through its flags the daemon is the service loop, so what is known about the signals
carries over. Between two signals it is at any time the daemon of one configuration, the
latest that was accepted.
-/

namespace Bossa.Core.Service.Place

/-- A body of the `EdgeService` is being executed. -/
def inside : Place → Bool
  | insideReload | insideLoop => true
  | _ => false

/-- The rounds of the loop that can still return when a stop has been asked for. -/
def roundsLeft : Place → ℕ
  | testReload | clearReload | callReload | insideReload | callLoop | insideLoop => 1
  | _ => 0

theorem roundsLeft_le (place : Place) : place.roundsLeft ≤ 1 := by
  cases place <;> decide

end Bossa.Core.Service.Place

namespace Bossa.Storage.LocalStore

theorem open_fst (fault : Option OpenFault) (path : Bytes)
    (s s' : LocalStore) : (s.open fault path).1 = (s'.open fault path).1 := by
  unfold LocalStore.open
  by_cases hpath : path = []
  · rw [if_pos hpath, if_pos hpath]
  · rw [if_neg hpath, if_neg hpath]
    rcases fault with _ | _ | _ <;> rfl

end Bossa.Storage.LocalStore

namespace Bossa.Runtime

open Bossa.Core Telemetry Storage Sync Transition

def Event.isPost (route : Route) : Event → Bool
  | .post route' _ _ => route' = route
  | _ => false

/-- The events of the tick of a round of the loop. -/
def EdgeService.loopEvents (input : TickInput) (s : EdgeService) : List Event :=
  if s.config.channels.isEmpty then []
  else
    match s.runtime.tick input with
    | .ok (events, _) => events
    | .error _ => []

/-- The daemon: the flags with the place in `Service::start`, and the `EdgeService`. -/
structure Daemon where
  service : Service
  edge : EdgeService

namespace TelemetryRuntime

theorem configureChannels_fst (input : ConfigureInput) :
    ∀ (channels : List ChannelConfig) (index : ℕ) (s s' : TelemetryRuntime),
      (configureChannels input index channels s).1 = (configureChannels input index channels s').1
  | [], _, _, _ => rfl
  | channel :: channels, index, s, s' => by
      rw [configureChannels, configureChannels]
      split
      · exact configureChannels_fst input channels (index + 1) s s'
      · split
        · rfl
        · split
          · rfl
          · exact configureChannels_fst input channels (index + 1) _ _

theorem configure_fst (input : ConfigureInput) (config : Config) (s s' : TelemetryRuntime) :
    (s.configure input config).1 = (s'.configure input config).1 := by
  have hopen : ((s.reset input config).openStore input).1 =
      ((s'.reset input config).openStore input).1 := by
    rw [(openStore_spec input _).1, (openStore_spec input _).1]
    exact congrArg (_ || ·) (LocalStore.open_fst input.openFault config.localStorage.path _ _)
  have hchannels := configureChannels_fst input config.channels 0
    ((s.reset input config).openStore input).2 ((s'.reset input config).openStore input).2
  unfold configure
  dsimp only
  rw [hopen, hchannels]
  split
  · rfl
  · split <;> rfl

/-- `configure` succeeds with the configuration. -/
def Configures (input : ConfigureInput) (config : Config) : Prop :=
  ∀ s : TelemetryRuntime, (s.configure input config).1 = true

def uploaderOf (input : ConfigureInput) (config : Config) : HttpUploader where
  hasStore := decide (config.localStorage.path ≠ [])
  serverUrl := config.server.url
  nodeId := config.node.id
  apiKey := readApiKeyFile config.node.apiKeyFile input.keyFile
  timeoutSeconds := config.server.uploadTimeoutSeconds

/-- After a call of `configure` there is the uploader of its configuration, or none when the
call fails or there is no server. -/
theorem uploader_configure_iff {input : ConfigureInput} (hkey : input.apiKey = [])
    (config : Config) (s : TelemetryRuntime) (u : HttpUploader) :
    (s.configure input config).2.uploader = some u ↔
      Configures input config ∧ config.server.url ≠ [] ∧ u = uploaderOf input config := by
  cases hresult : (s.configure input config).1 with
  | false =>
      have hhalf := configure_halfConfigured (Prod.ext hresult rfl :
        s.configure input config = (false, (s.configure input config).2))
      rw [hhalf.uploader_eq]
      refine iff_of_false nofun fun h => ?_
      rw [h.1 s] at hresult
      cases hresult
  | true =>
      have hconfigures : Configures input config := fun s' =>
        (configure_fst input config s' s).trans hresult
      obtain ⟨hconfig, -, ⟨hopen, -⟩, huploader⟩ := configure_spec (Prod.ext hresult rfl :
        s.configure input config = (true, (s.configure input config).2))
      obtain ⟨_, _, _, _, _, _, _, heq⟩ := configure_eq input config s
      have hapiKey : (s.configure input config).2.apiKey =
          readApiKeyFile config.node.apiKeyFile input.keyFile := by
        rw [heq]
        exact if_neg (not_not.mpr hkey)
      rw [huploader, createUploader, hconfig, hopen, hapiKey]
      by_cases hurl : config.server.url = []
      · simp [hurl]
      · simp [hurl, hconfigures, uploaderOf, eq_comm]

theorem SendsFrom.reconfigure {nodeId : Bytes} {S : Set Sample} {s : TelemetryRuntime}
    (h : s.SendsFrom nodeId S) (input : ConfigureInput) (config : Config) :
    (s.configure input config).2.SendsFrom config.node.id S :=
  SendsFrom.configure (s := { s with uploader := none }) ⟨nofun, h.residents, h.rows⟩ input rfl

theorem SendsFrom.tick_ne_exception {nodeId : Bytes} {S : Set Sample} {s : TelemetryRuntime}
    (hs : s.SendsFrom nodeId S) (hS : ∀ x ∈ S, SourceTexts x) (hcuts : ∀ x ∈ S, CutsBetween x)
    (hnode : Bytes.validUtf8 nodeId = true) {input : TickInput} (hreads : input.ReadsFrom S) :
    s.tick input ≠ .error .exception := by
  refine Sendable.tick_ne_exception
    ⟨fun u hu => ?_, fun y hy => ?_, fun r hr => ?_⟩ fun i x hx => ?_
  · exact hs.node u hu ▸ hnode
  · exact (hs.residents y hy).validText hS hcuts
  · exact (hs.rows.rows r hr).validText hS hcuts
  · exact StoredFrom.validText hS hcuts ⟨x, hreads i x hx, .normal, rfl⟩

end TelemetryRuntime

open TelemetryRuntime

namespace Daemon

/-- A step of the daemon: one of the service loop or a signal, a `reload()` that returns or
throws, and a `loop()` that returns, with the events of its tick, or throws. -/
inductive Label where
  | service (event : Service.Event)
  | reloaded (file : ConfigFile) (input : ConfigureInput)
  | reloadThrew (file : ConfigFile)
  | looped (input : TickInput) (countFault : Bool) (now : ℤ) (events : List Event)
  | loopThrew (input : TickInput)

/-- The steps of the daemon. No API key is passed to `configure`. -/
inductive Step (conversions : YamlConversions) (load : Bytes → Except Bytes Yaml) :
    Daemon → Label → Daemon → Prop
  | service {s t : Service} {e : Service.Event} {edge : EdgeService}
      (hstep : Service.Step s e t) (hinside : e.own = true → s.place.inside = false) :
      Step conversions load ⟨s, edge⟩ (.service e) ⟨t, edge⟩
  | reloaded {running reload : Bool} {edge edge' : EdgeService} {file : ConfigFile}
      {input : ConfigureInput} (hkey : input.apiKey = [])
      (hreload : edge.reload conversions load file input = .ok edge') :
      Step conversions load ⟨⟨running, reload, .insideReload⟩, edge⟩ (.reloaded file input)
        ⟨⟨running, reload, .callLoop⟩, edge'⟩
  | reloadThrew {running reload : Bool} {edge : EdgeService} {file : ConfigFile}
      {input : ConfigureInput}
      (hreload : edge.reload conversions load file input = .error .exception) :
      Step conversions load ⟨⟨running, reload, .insideReload⟩, edge⟩ (.reloadThrew file)
        ⟨⟨running, reload, .ended⟩, edge⟩
  | looped {running reload : Bool} {edge edge' : EdgeService} {input : TickInput}
      {countFault : Bool} {now : ℤ} {pause : Pause}
      (hloop : edge.loop input countFault now = .ok (pause, edge')) :
      Step conversions load ⟨⟨running, reload, .insideLoop⟩, edge⟩
        (.looped input countFault now (edge.loopEvents input))
        ⟨⟨running, reload, .testRunning⟩, edge'⟩
  | loopThrew {running reload : Bool} {edge : EdgeService} {input : TickInput}
      {countFault : Bool} {now : ℤ}
      (hloop : edge.loop input countFault now = .error .exception) :
      Step conversions load ⟨⟨running, reload, .insideLoop⟩, edge⟩ (.loopThrew input)
        ⟨⟨running, reload, .ended⟩, edge⟩

/-- The daemon after the constructor of the `EdgeService`, with the configuration that
`main` has loaded and the database files found. When `configure` fails it is started all the
same. -/
def boot (path : Bytes) (files : Bytes → PendingUploads) (input : ConfigureInput)
    (config : Config) (running reload : Bool) : Daemon where
  service := ⟨running, reload, .setRunning⟩
  edge := ⟨path, config, ((TelemetryRuntime.new files).configure input config).2⟩

/-- What a step is for the service loop. -/
def Label.observed : Label → Service.Event
  | service event => event
  | _ => .quiet

/-- The step is one of the daemon itself, not the delivery of a signal. -/
def Label.own (l : Label) : Bool := l.observed.own

variable {conversions : YamlConversions} {load : Bytes → Except Bytes Yaml}
  {d d' : Daemon} {l : Label} {labels before after : List Label}

/-! ### The service loop -/

theorem Step.observed (h : Step conversions load d l d') :
    Service.Step d.service l.observed d'.service := by
  cases h with
  | service hstep _ => exact hstep
  | reloaded => exact .reloadReturns
  | reloadThrew => exact .reloadThrows
  | looped => exact .loopReturns
  | loopThrew => exact .loopThrows

theorem simulates_service :
    Simulates (Step conversions load) Service.Step (fun l => [l.observed])
      (fun d s => d.service = s) := by
  rintro d l d' s rfl h
  exact ⟨d'.service, .snoc .nil h.observed, rfl⟩

theorem run_service (hrun : Run (Step conversions load) d labels d') :
    Run Service.Step d.service (labels.map Label.observed) d'.service := by
  obtain ⟨s, hservice, rfl⟩ := simulates_service.run hrun rfl
  rwa [List.map_eq_flatMap]

/-! ### The reloads -/

/-- What a reload can do: the document is refused, or read and configured, or a value in it
throws. -/
theorem reload_cases (edge : EdgeService) (file : ConfigFile) (input : ConfigureInput) :
    ((∃ message, loadConfig conversions load file edge.configPath = .error (.fail message)) ∧
        edge.reload conversions load file input = .ok edge) ∨
      (∃ config, loadConfig conversions load file edge.configPath = .ok config ∧
        edge.reload conversions load file input =
          .ok { edge with
            config := config, runtime := (edge.runtime.configure input config).2 }) ∨
      (loadConfig conversions load file edge.configPath = .error .escape ∧
        edge.reload conversions load file input = .error .exception) := by
  unfold EdgeService.reload
  cases loadConfig conversions load file edge.configPath with
  | ok config => exact .inr (.inl ⟨config, rfl, rfl⟩)
  | error e =>
      cases e with
      | fail message => exact .inl ⟨⟨message, rfl⟩, rfl⟩
      | escape => exact .inr (.inr ⟨rfl, rfl⟩)

/-! ### The rounds of the loop -/

theorem loop_cases {edge edge' : EdgeService} {input : TickInput} {countFault : Bool} {now : ℤ}
    {pause : Pause} (h : edge.loop input countFault now = .ok (pause, edge')) :
    (edge.config.channels.isEmpty = true ∧ edge.loopEvents input = [] ∧ edge' = edge) ∨
      (edge.config.channels.isEmpty = false ∧ ∃ events runtime,
        edge.runtime.tick input = .ok (events, runtime) ∧ edge.loopEvents input = events ∧
          edge' = { edge with runtime := runtime }) := by
  unfold EdgeService.loop at h
  unfold EdgeService.loopEvents
  split at h
  · next hempty =>
      cases h
      exact .inl ⟨hempty, if_pos hempty, rfl⟩
  · next hchannels =>
      obtain ⟨⟨events, runtime⟩, htick, h⟩ := Abort.bind_eq_ok_iff.mp h
      cases h
      refine .inr ⟨Bool.not_eq_true _ ▸ hchannels, events, runtime, htick, ?_, rfl⟩
      rw [if_neg hchannels, htick]

theorem Step.edge_of_service {e : Service.Event}
    (h : Step conversions load d (.service e) d') : d'.edge = d.edge := by
  cases h with
  | service => rfl

theorem Step.of_reloaded {file : ConfigFile} {input : ConfigureInput}
    (h : Step conversions load d (.reloaded file input) d') :
    d.edge.reload conversions load file input = .ok d'.edge := by
  cases h with
  | reloaded hkey hreload => exact hreload

theorem Step.edge_of_reloadThrew {file : ConfigFile}
    (h : Step conversions load d (.reloadThrew file) d') : d'.edge = d.edge := by
  cases h with
  | reloadThrew => rfl

theorem Step.of_loop {running reload : Bool} {edge edge' : EdgeService} {input : TickInput}
    {countFault : Bool} {now : ℤ} {pause : Pause} {events : List Event}
    (hloop : edge.loop input countFault now = .ok (pause, edge'))
    (hevents : edge.loopEvents input = events) :
    Step conversions load ⟨⟨running, reload, .insideLoop⟩, edge⟩
      (.looped input countFault now events) ⟨⟨running, reload, .testRunning⟩, edge'⟩ := by
  subst hevents
  exact .looped hloop

theorem Step.of_looped {input : TickInput} {countFault : Bool} {now : ℤ} {events : List Event}
    (h : Step conversions load d (.looped input countFault now events) d') :
    ∃ pause edge', d.edge.loop input countFault now = .ok (pause, edge') ∧
      events = d.edge.loopEvents input ∧
        d' = ⟨{ d.service with place := .testRunning }, edge'⟩ := by
  cases h with
  | looped hloop => exact ⟨_, _, hloop, rfl, rfl⟩

theorem tick_of_loop_error {edge : EdgeService} {input : TickInput} {countFault : Bool} {now : ℤ}
    {a : Abort} (h : edge.loop input countFault now = .error a) :
    edge.runtime.tick input = .error a := by
  unfold EdgeService.loop at h
  split at h
  · cases h
  · rcases Abort.bind_eq_error_iff.mp h with htick | ⟨_, -, hpure⟩
    · exact htick
    · cases hpure

theorem loop_of_tick {edge : EdgeService} {input : TickInput} {events : List Event}
    {runtime : TelemetryRuntime} (countFault : Bool) (now : ℤ)
    (hchannels : edge.config.channels.isEmpty = false)
    (htick : edge.runtime.tick input = .ok (events, runtime)) :
    edge.loopEvents input = events ∧
      ∃ pause, edge.loop input countFault now = .ok (pause, { edge with runtime := runtime }) := by
  constructor
  · rw [EdgeService.loopEvents, hchannels, htick]
    rfl
  · rw [EdgeService.loop, hchannels, htick]
    exact ⟨_, rfl⟩

theorem isPost_attemptEvents (route route' : Route) (now : ℤ) (attempt : Attempt) :
    (attemptEvents route now attempt).countP (Event.isPost route') ≤
      if route = route' then 1 else 0 := by
  have hstatements : (attempt.statements.map Event.statement).countP (Event.isPost route') = 0 := by
    rw [List.countP_eq_zero]
    intro e he
    obtain ⟨statement, -, rfl⟩ := List.mem_map.mp he
    exact Bool.false_ne_true
  rw [attemptEvents, List.countP_append, hstatements, Nat.add_zero]
  cases attempt.exchange with
  | none => exact Nat.zero_le _
  | some exchange =>
      by_cases hroute : route = route'
      · simp [Event.isPost, hroute]
      · simp [Event.isPost, hroute]

theorem isPost_tick {s s' : TelemetryRuntime} {input : TickInput} {events : List Event}
    (h : s.tick input = .ok (events, s')) (route : Route) :
    events.countP (Event.isPost route) ≤ 1 := by
  rcases TelemetryRuntime.tick_cases h with
    ⟨-, rfl, -⟩ | ⟨-, pollEvents, polled, flushEvents, flushed, retryEvents, hpoll, hflush,
      hretry, rfl⟩
  · exact Nat.zero_le _
  · have hpolls : pollEvents.countP (Event.isPost route) = 0 := by
      rw [List.countP_eq_zero]
      intro e he
      cases TelemetryRuntime.pollDue_isPoll hpoll e he with
      | read => exact Bool.false_ne_true
      | dropped => exact Bool.false_ne_true
    have hflushed : flushEvents.countP (Event.isPost route) ≤ if .flush = route then 1 else 0 := by
      rcases TelemetryRuntime.maybeFlush_cases hflush with
        ⟨-, rfl, -⟩ | ⟨-, -, -, attempt, -, -, -, -, rfl, -⟩
      · exact Nat.zero_le _
      · exact isPost_attemptEvents .flush route _ attempt
    have hretried : retryEvents.countP (Event.isPost route) ≤ if .retry = route then 1 else 0 := by
      rcases TelemetryRuntime.maybeRetry_cases hretry with
        ⟨rfl | rfl, -⟩ | ⟨-, attempt, -, -, -, rfl, -⟩
      · exact Nat.zero_le _
      · exact Nat.zero_le _
      · rw [List.countP_cons_of_neg (by exact Bool.false_ne_true)]
        exact isPost_attemptEvents .retry route _ attempt
    rw [List.countP_append, List.countP_append, hpolls, Nat.zero_add]
    cases route with
    | flush => exact Nat.add_le_add hflushed hretried
    | retry => exact Nat.add_le_add hflushed hretried

theorem mem_attemptEvents {route route' : Route} {now now' : ℤ} {attempt : Attempt}
    {exchange : Exchange} (h : Event.post route now exchange ∈ attemptEvents route' now' attempt) :
    attempt.exchange = some exchange := by
  rcases List.mem_append.mp h with h | h
  · obtain ⟨exchange', hexchange, heq⟩ := Option.map_eq_some_iff.mp (Option.mem_toList.mp h)
    cases heq
    exact hexchange
  · obtain ⟨statement, -, heq⟩ := List.mem_map.mp h
    cases heq

theorem request_of_tick {s s' : TelemetryRuntime} {input : TickInput} {events : List Event}
    (h : s.tick input = .ok (events, s')) {route : Route} {now : ℤ} {exchange : Exchange}
    (hpost : .post route now exchange ∈ events) :
    ∃ u sentAt, s.uploader = some u ∧
      u.request sentAt exchange.samples = .ok exchange.request := by
  rcases TelemetryRuntime.tick_cases h with
    ⟨-, rfl, -⟩ | ⟨-, pollEvents, polled, flushEvents, flushed, retryEvents, hpoll, hflush,
      hretry, rfl⟩
  · cases hpost
  · have hpolled := (pollDue_frame hpoll).uploader
    have hflushed := (maybeFlush_frame hflush).uploader.trans hpolled
    rw [List.mem_append, List.mem_append] at hpost
    rcases hpost with (hpost | hpost) | hpost
    · nomatch pollDue_isPoll hpoll _ hpost
    · rcases maybeFlush_cases hflush with
        ⟨-, rfl, -⟩ | ⟨-, u, buffer, attempt, hu, -, hne, hupload, rfl, -⟩
      · cases hpost
      · obtain ⟨request, hrequest, hexchange, -⟩ := HttpUploader.upload_cases hne hupload
        cases hexchange.symm.trans (mem_attemptEvents hpost)
        exact ⟨u, _, hpolled ▸ hu, hrequest⟩
    · rcases maybeRetry_cases hretry with
        ⟨rfl | rfl, -⟩ | ⟨u, attempt, hu, -, hattempt, rfl, -⟩
      · cases hpost
      · simp at hpost
      · have hexchange : attempt.exchange = some exchange := by
          rcases List.mem_cons.mp hpost with heq | hpost
          · cases heq
          · exact mem_attemptEvents hpost
        cases hstore : u.hasStore with
        | false =>
            simp only [HttpUploader.retryPending, hstore, Bool.not_false, if_true] at hattempt
            cases hattempt
            cases hexchange
        | true =>
            rcases HttpUploader.retryPending_cases hstore hattempt with
              ⟨-, rfl⟩ | ⟨-, request, hrequest, hsome, -⟩
            · cases hexchange
            · cases hsome.symm.trans hexchange
              exact ⟨u, _, hflushed ▸ hu, hrequest⟩

/-- The events of the ticks among some steps. -/
def Label.events : Label → List Event
  | looped _ _ _ events => events
  | _ => []

theorem Step.isPost (h : Step conversions load d l d') (route : Route) :
    l.events.countP (Event.isPost route) ≤ 1 := by
  cases h with
  | @looped _ _ edge _ input _ _ _ hloop =>
      change (edge.loopEvents input).countP (Event.isPost route) ≤ 1
      rcases loop_cases hloop with ⟨-, hevents, -⟩ | ⟨-, events, runtime, htick, hevents, -⟩
      · rw [hevents]
        exact Nat.zero_le _
      · rw [hevents]
        exact isPost_tick htick route
  | _ => exact Nat.zero_le _

/-! ### Stopping -/

/-- Once a stop has been asked for, a round that returns is the last one. -/
theorem Step.roundsLeft (h : Step conversions load d l d') (hs : d.service.Stopping)
    (route : Route) :
    l.events.countP (Event.isPost route) + d'.service.place.roundsLeft ≤
      d.service.place.roundsLeft := by
  have hposts := h.isPost route
  cases h with
  | service hstep _ =>
      have hstopped := hs.stopped
      have hhandled := hs.handled
      rw [show (Label.service _).events = [] from rfl, List.countP_nil, Nat.zero_add]
      cases hstep with
      | enterLoop => nomatch hstopped
      | signal signal _ => rw [Service.signalHandler_place]
      | setRunning | setReload | openLogging | openLoggingFails | installHandlers
      | installHandlersFails => exact absurd hhandled Bool.false_ne_true
      | _ => simp [Service.Place.roundsLeft]
  | reloaded => exact Nat.le_refl _
  | reloadThrew => exact Nat.zero_le _
  | looped => exact hposts
  | loopThrew => exact Nat.zero_le _

theorem stopping_of_signal {signal : Service.Signal} (hsignal : signal ≠ .hup)
    (h : Step conversions load d (.service (.signal signal)) d') : d'.service.Stopping := by
  cases h with
  | service hservice _ =>
      cases hservice with
      | signal _ hhandled =>
          rw [Service.signalHandler_of_ne_hup hsignal]
          exact ⟨hhandled, rfl⟩

/-- After a stop at most one more round returns, and it posts at most one batch on each
route. -/
theorem isPost_of_stopping (hrun : Run (Step conversions load) d labels d')
    (hs : d.service.Stopping) (route : Route) :
    d'.service.Stopping ∧
      (labels.flatMap Label.events).countP (Event.isPost route) + d'.service.place.roundsLeft ≤
        d.service.place.roundsLeft := by
  induction hrun with
  | nil => exact ⟨hs, by simp⟩
  | snoc _ hstep ih =>
      obtain ⟨hstopping, hposts⟩ := ih
      have hlast := hstep.roundsLeft hstopping route
      refine ⟨(hstep.observed.stopping hstopping).1, ?_⟩
      rw [List.flatMap_append, List.countP_append, List.flatMap_singleton]
      omega

/-- Until the service has ended there is a next step, unless the tick of the round does not
come to its end. -/
theorem exists_step (conversions : YamlConversions) (load : Bytes → Except Bytes Yaml)
    (input : TickInput) (countFault : Bool) (now : ℤ) (d : Daemon)
    (hended : d.service.place ≠ .ended) (hfailed : d.service.place ≠ .failed) :
    (∃ l d', l.own = true ∧ Step conversions load d l d') ∨
      ∃ a, a ≠ .exception ∧ d.edge.loop input countFault now = .error a := by
  obtain ⟨⟨running, reload, place⟩, edge⟩ := d
  have hservice : ∀ {e t}, Service.Step ⟨running, reload, place⟩ e t → e.own = true →
      place.inside = false →
      ∃ l d', l.own = true ∧ Step conversions load ⟨⟨running, reload, place⟩, edge⟩ l d' :=
    fun hstep hown hinside => ⟨.service _, ⟨_, edge⟩, hown, .service hstep fun _ => hinside⟩
  cases place with
  | setRunning => exact .inl (hservice .setRunning rfl rfl)
  | setReload => exact .inl (hservice .setReload rfl rfl)
  | openLogging => exact .inl (hservice .openLogging rfl rfl)
  | installHandlers => exact .inl (hservice .installHandlers rfl rfl)
  | announce => exact .inl (hservice .announce rfl rfl)
  | testRunning =>
      cases running with
      | true => exact .inl (hservice .enterLoop rfl rfl)
      | false => exact .inl (hservice .leaveLoop rfl rfl)
  | testReload =>
      cases reload with
      | true => exact .inl (hservice .reloadNeeded rfl rfl)
      | false => exact .inl (hservice .noReloadNeeded rfl rfl)
  | clearReload => exact .inl (hservice .clearReload rfl rfl)
  | callReload => exact .inl (hservice .callReload rfl rfl)
  | callLoop => exact .inl (hservice .callLoop rfl rfl)
  | closeLog => exact .inl (hservice .closeLog rfl rfl)
  | ended => exact absurd rfl hended
  | failed => exact absurd rfl hfailed
  | insideReload =>
      -- whatever the file contains and whatever comes from outside, `reload()` ends
      let file : ConfigFile := ⟨some false, none, false, none⟩
      let configured : ConfigureInput :=
        ⟨[], none, none, fun _ => true, fun _ => none, fun _ => 0, 0⟩
      refine .inl ?_
      rcases @reload_cases conversions load edge file configured with
        ⟨-, hreload⟩ | ⟨config, -, hreload⟩ | ⟨-, hreload⟩
      · exact ⟨_, _, rfl, .reloaded rfl hreload⟩
      · exact ⟨_, _, rfl, .reloaded rfl hreload⟩
      · exact ⟨_, _, rfl, .reloadThrew hreload⟩
  | insideLoop =>
      cases hloop : edge.loop input countFault now with
      | ok round => exact .inl ⟨_, _, rfl, .looped hloop⟩
      | error a =>
          by_cases hthrown : a = .exception
          · subst hthrown
            exact .inl ⟨_, _, rfl, .loopThrew hloop⟩
          · exact .inr ⟨a, hthrown, rfl⟩

section Deployment

/-- The steps from the beginning of `start()` into the first round. -/
def opening : List Label :=
  [.service .quiet, .service .quiet, .service .quiet, .service .quiet, .service .quiet,
    .service .quiet, .service .quiet, .service .loop]

theorem run_opening (running reload : Bool) (edge : EdgeService) :
    Run (Step conversions load) ⟨⟨running, reload, .setRunning⟩, edge⟩ opening
      ⟨⟨true, false, .insideLoop⟩, edge⟩ := by
  have hquiet : ∀ {s t : Service} {labels d'}, Service.Step s .quiet t → s.place.inside = false →
      Run (Step conversions load) ⟨t, edge⟩ labels d' →
      Run (Step conversions load) ⟨s, edge⟩ (.service .quiet :: labels) d' :=
    fun hstep hinside hrun => .cons (.service hstep fun _ => hinside) hrun
  exact hquiet .setRunning rfl <| hquiet .setReload rfl <| hquiet .openLogging rfl <|
    hquiet .installHandlers rfl <| hquiet .announce rfl <| hquiet .enterLoop rfl <|
    hquiet .noReloadNeeded rfl <| .cons (.service .callLoop fun _ => rfl) .nil

def deployedDaemon : Daemon :=
  boot (Bytes.ascii "config.yaml") (fun _ => .empty) deploymentInput (deploymentConfig "1" "remote")
    true false

/-- The steps of a daemon that is stopped while its first round posts a sample. -/
def stopped (events : List Event) : List Label :=
  [.looped (deploymentTick 1 (some 1) 202 202) false 0 events, .service .quiet, .service .quiet]

theorem run_stopped (conversions : YamlConversions) (load : Bytes → Except Bytes Yaml) :
    ∃ events d, events.countP (Event.isPost .flush) = 1 ∧ d.service.place = .ended ∧
      Run (Step conversions load) deployedDaemon
        (opening ++ .service (.signal .term) :: stopped events) d := by
  obtain ⟨⟨events, runtime⟩, htick, hposts⟩ := @Abort.exists_ok_of_any _ _
    ((deployed "1" "remote").tick (deploymentTick 1 (some 1) 202 202))
    (fun r => r.1.countP (Event.isPost .flush) = 1 && !deployedDaemon.edge.config.channels.isEmpty)
    (by decide +kernel)
  rw [Bool.and_eq_true, decide_eq_true_iff, Bool.not_eq_true'] at hposts
  obtain ⟨hevents, pause, hloop⟩ :=
    @loop_of_tick deployedDaemon.edge _ _ _ false 0 hposts.2 htick
  refine ⟨events, ⟨⟨false, false, .ended⟩, { deployedDaemon.edge with runtime := runtime }⟩,
    hposts.1, rfl, (run_opening true false deployedDaemon.edge).append ?_⟩
  have hround : Step conversions load ⟨⟨false, false, .insideLoop⟩, deployedDaemon.edge⟩
      (.looped (deploymentTick 1 (some 1) 202 202) false 0 events)
      ⟨⟨false, false, .testRunning⟩, { deployedDaemon.edge with runtime := runtime }⟩ :=
    .of_loop hloop hevents
  exact .cons (.service (.signal .term rfl) nofun) <| .cons hround <|
    .cons (.service .leaveLoop fun _ => rfl) <| .cons (.service .closeLog fun _ => rfl) .nil

end Deployment

/-- A signal is answered soon, whatever the bodies do and whatever signals follow: after a
stop at most eight steps are made, with at most one flush and one retry among them, and after
a request for a reload at most six before the reload is begun; and until the daemon has ended
a next step is possible, unless a tick does not come to its end. -/
theorem answers_in_time (hrun : Run (Step conversions load) d labels d') :
    (∀ before signal after, signal ≠ Service.Signal.hup →
        labels = before ++ .service (.signal signal) :: after →
        after.countP Label.own ≤ 8 ∧
          ∀ route, (after.flatMap Label.events).countP (Event.isPost route) ≤ 1) ∧
      (∀ before after, labels = before ++ .service (.signal .hup) :: after →
        (∀ l ∈ after, l.observed ≠ .reload) → after.countP Label.own ≤ 6) ∧
      (d'.service.place ≠ .ended → d'.service.place ≠ .failed →
        ∀ (input : TickInput) (countFault : Bool) (now : ℤ),
          (∃ l d'', l.own = true ∧ Step conversions load d' l d'') ∨
            ∃ a, a ≠ .exception ∧ d'.edge.loop input countFault now = .error a) := by
  refine ⟨?_, ?_, fun hended hfailed input countFault now =>
    exists_step conversions load input countFault now d' hended hfailed⟩
  · rintro before signal after hsignal rfl
    obtain ⟨d₁, d₂, -, hstep, hafter⟩ := hrun.of_append_cons
    have hstopping := stopping_of_signal hsignal hstep
    refine ⟨?_, fun route => ?_⟩
    · have hown := Service.countP_own_le_of_stopping (run_service hafter) hstopping
      rwa [List.countP_map] at hown
    · have hposts := (isPost_of_stopping hafter hstopping route).2
      have hleft := d₂.service.place.roundsLeft_le
      omega
  · rintro before after rfl hreload
    obtain ⟨d₁, d₂, -, hstep, hafter⟩ := hrun.of_append_cons
    have hawaiting : d₂.service.Awaiting := by
      cases hstep with
      | service hservice _ =>
          cases hservice with
          | signal _ hhandled => exact ⟨hhandled, .inl rfl⟩
    have hnone : Service.Event.reload ∉ after.map Label.observed := by
      rintro hmem
      obtain ⟨l, hl, hobserved⟩ := List.mem_map.mp hmem
      exact hreload l hl hobserved
    have hown := Service.countP_own_le_of_awaiting (run_service hafter) hawaiting hnone
    rwa [List.countP_map] at hown

/-- The round in which the stop comes posts its sample. -/
theorem answers_in_time_stopped :
    ∃ events, events.countP (Event.isPost .flush) = 1 ∧
      (stopped events).countP Label.own ≤ 8 ∧
        ∀ route, ((stopped events).flatMap Label.events).countP (Event.isPost route) ≤ 1 := by
  obtain ⟨events, d, hposts, -, hrun⟩ := run_stopped plainConversions fun _ => .error []
  exact ⟨events, hposts, (answers_in_time hrun).1 opening .term (stopped events) nofun rfl⟩

/-! ### The configuration -/

/-- The configuration that a step has accepted, with what `configure` found outside. -/
def Label.configured (conversions : YamlConversions) (load : Bytes → Except Bytes Yaml)
    (path : Bytes) : Label → Option (ConfigureInput × Config)
  | reloaded file input =>
      match loadConfig conversions load file path with
      | .ok config => some (input, config)
      | .error _ => none
  | _ => none

def latest (conversions : YamlConversions) (load : Bytes → Except Bytes Yaml) (path : Bytes)
    (first : ConfigureInput × Config) (labels : List Label) : ConfigureInput × Config :=
  labels.foldl (fun c l => (l.configured conversions load path).getD c) first

/-- The service runs with the configuration: its runtime has it, and the uploader that it
makes, unless `configure` has failed or there is no server. -/
structure RunsWith (path : Bytes) (c : ConfigureInput × Config) (edge : EdgeService) : Prop where
  configPath : edge.configPath = path
  config : edge.config = c.2
  runtime : edge.runtime.config = c.2
  uploader : ∀ u, edge.runtime.uploader = some u ↔
    Configures c.1 c.2 ∧ c.2.server.url ≠ [] ∧ u = uploaderOf c.1 c.2

variable {path : Bytes} {files : Bytes → PendingUploads} {first c : ConfigureInput × Config}
  {running reload : Bool}

theorem config_configure (input : ConfigureInput) (config : Config) (s : TelemetryRuntime) :
    (s.configure input config).2.config = config := by
  obtain ⟨_, _, _, _, _, _, _, heq⟩ := configure_eq input config s
  rw [heq]
  rfl

theorem runsWith_boot (hkey : first.1.apiKey = []) :
    RunsWith path first (boot path files first.1 first.2 running reload).edge where
  configPath := rfl
  config := rfl
  runtime := config_configure _ _ _
  uploader := uploader_configure_iff hkey _ _

/-- A step runs with the configuration that it has accepted, or with the one of before. -/
theorem Step.runsWith (h : Step conversions load d l d') (hd : RunsWith path c d.edge) :
    RunsWith path ((l.configured conversions load path).getD c) d'.edge := by
  cases h with
  | service => exact hd
  | reloadThrew => exact hd
  | loopThrew => exact hd
  | looped hloop =>
      rcases loop_cases hloop with ⟨-, -, rfl⟩ | ⟨-, events, runtime, htick, -, rfl⟩
      · exact hd
      · have hframe := tick_frame htick
        exact ⟨hd.configPath, hd.config, hframe.config.trans hd.runtime,
          fun u => by rw [hframe.uploader]; exact hd.uploader u⟩
  | @reloaded _ _ edge edge' file input hkey hreload =>
      have hpath : edge.configPath = path := hd.configPath
      rcases @reload_cases conversions load edge file input with
        ⟨⟨message, hload⟩, hsame⟩ | ⟨config, hload, hnew⟩ | ⟨-, hthrown⟩
      · cases hsame.symm.trans hreload
        rw [hpath] at hload
        simp only [Label.configured, hload]
        exact hd
      · cases hnew.symm.trans hreload
        rw [hpath] at hload
        simp only [Label.configured, hload]
        exact ⟨hpath, rfl, config_configure _ _ _, uploader_configure_iff hkey _ _⟩
      · cases hthrown.symm.trans hreload

theorem runsWith_of_run (hkey : first.1.apiKey = [])
    (hrun : Run (Step conversions load) (boot path files first.1 first.2 running reload) labels d) :
    RunsWith path (latest conversions load path first labels) d.edge := by
  induction hrun with
  | nil => exact runsWith_boot hkey
  | snoc _ hstep ih =>
      rw [latest, List.foldl_append]
      exact hstep.runsWith ih

/-- Whatever signals come and whatever the reloads find: the service and its runtime always
have the configuration that was accepted last, and every request that is posted is one of its
uploader. So nothing is posted after a reload that was accepted and could not be configured,
until a later one can be. -/
theorem requests_configured (hkey : first.1.apiKey = [])
    (hrun : Run (Step conversions load) (boot path files first.1 first.2 running reload) labels d) :
    d.edge.config = (latest conversions load path first labels).2 ∧
      d.edge.runtime.config = (latest conversions load path first labels).2 ∧
      ∀ before input countFault now events after route at' exchange,
        labels = before ++ .looped input countFault now events :: after →
        .post route at' exchange ∈ events →
          let c := latest conversions load path first before
          Configures c.1 c.2 ∧ c.2.server.url ≠ [] ∧
            ∃ sentAt, exchange.request =
              { url := joinUrl c.2.server.url HttpUploader.telemetryPath
                headers := (uploaderOf c.1 c.2).headers
                body := (payload c.2.node.id sentAt exchange.samples).written
                timeoutSeconds := c.2.server.uploadTimeoutSeconds } := by
  have hruns := runsWith_of_run hkey hrun
  refine ⟨hruns.config, hruns.runtime, ?_⟩
  rintro before input countFault now events after route at' exchange rfl hpost
  obtain ⟨d₁, d₂, hbefore, hstep⟩ := hrun.exists_step
  have hsender := (runsWith_of_run hkey hbefore).uploader
  cases hstep with
  | looped hloop =>
      rcases loop_cases hloop with ⟨-, hevents, -⟩ | ⟨-, events, runtime, htick, hevents, -⟩
      · rw [hevents] at hpost
        cases hpost
      · rw [hevents] at hpost
        obtain ⟨u, sentAt, hu, hrequest⟩ := request_of_tick htick hpost
        obtain ⟨hconfigures, hurl, rfl⟩ := (hsender u).mp hu
        exact ⟨hconfigures, hurl, sentAt, (HttpUploader.request_eq_ok_iff.mp hrequest).2⟩

/-- The sample goes to the server of the configuration. -/
theorem requests_configured_stopped :
    ∃ events at' exchange, .post .flush at' exchange ∈ events ∧
      exchange.request.url = Bytes.ascii "http://host/api/v1/telemetry" ∧
      ∃ d, Run (Step plainConversions fun _ => .error []) deployedDaemon
        (opening ++ .service (.signal .term) :: stopped events) d := by
  obtain ⟨events, d, hposts, -, hrun⟩ := run_stopped plainConversions fun _ => .error []
  obtain ⟨e, he, hpost⟩ := List.countP_pos_iff.mp (hposts ▸ Nat.one_pos)
  cases e with
  | post route at' exchange =>
      cases of_decide_eq_true hpost
      obtain ⟨-, -, sentAt, hrequest⟩ := (@requests_configured _ _ _ _ _ _
        (deploymentInput, deploymentConfig "1" "remote") _ _ rfl hrun).2.2
          (opening ++ [.service (.signal .term)]) (deploymentTick 1 (some 1) 202 202) false 0
          events [.service .quiet, .service .quiet] .flush at' exchange rfl he
      refine ⟨events, at', exchange, he, ?_, d, hrun⟩
      rw [hrequest]
      change joinUrl (deploymentConfig "1" "remote").server.url HttpUploader.telemetryPath = _
      decide +kernel
  | _ => cases hpost

/-! ### Staying up -/

/-- What a step finds outside does not make it throw: the document is accepted or refused
with a message, its node id is valid UTF-8, and the drivers return samples of the set. -/
def Label.Harmless (conversions : YamlConversions) (load : Bytes → Except Bytes Yaml)
    (path : Bytes) (S : Set Sample) : Label → Prop
  | service _ => True
  | reloaded file _ | reloadThrew file =>
      loadConfig conversions load file path ≠ .error .escape ∧
        ∀ config, loadConfig conversions load file path = .ok config →
          Bytes.validUtf8 config.node.id = true
  | looped input _ _ _ | loopThrew input => input.ReadsFrom S

def Label.stops : Label → Bool
  | service (.signal .term) | service (.signal .int) => true
  | _ => false

def Label.threw : Label → Bool
  | reloadThrew _ | loopThrew _ => true
  | _ => false

/-- What the daemon would send can be sent. -/
structure Sends (path : Bytes) (S : Set Sample) (d : Daemon) : Prop where
  configPath : d.edge.configPath = path
  sends : ∃ nodeId, Bytes.validUtf8 nodeId = true ∧ d.edge.runtime.SendsFrom nodeId S

/-- Without a stop the loop is not left. -/
structure GoesOn (s : Service) : Prop where
  running : s.place ≠ .setRunning → s.running = true
  place : s.place ≠ .closeLog ∧ s.place ≠ .ended

variable {S : Set Sample}

theorem Step.sends (hS : ∀ x ∈ S, SourceTexts x) (hcuts : ∀ x ∈ S, CutsBetween x)
    (h : Step conversions load d l d') (hl : l.Harmless conversions load path S)
    (hd : Sends path S d) : Sends path S d' ∧ l.threw = false := by
  obtain ⟨hpath, nodeId, hnode, hsends⟩ := hd
  cases h with
  | service => exact ⟨⟨hpath, nodeId, hnode, hsends⟩, rfl⟩
  | @reloadThrew _ _ edge file input hreload =>
      refine absurd ?_ hl.1
      rw [← show edge.configPath = path from hpath]
      rcases @reload_cases conversions load edge file input with
        ⟨-, hsame⟩ | ⟨config, -, hnew⟩ | ⟨hload, -⟩
      · cases hsame.symm.trans hreload
      · cases hnew.symm.trans hreload
      · exact hload
  | loopThrew hloop =>
      exact absurd (tick_of_loop_error hloop) (hsends.tick_ne_exception hS hcuts hnode hl)
  | looped hloop =>
      rcases loop_cases hloop with ⟨-, -, rfl⟩ | ⟨-, events, runtime, htick, -, rfl⟩
      · exact ⟨⟨hpath, nodeId, hnode, hsends⟩, rfl⟩
      · exact ⟨⟨hpath, nodeId, hnode, hsends.tick hl htick⟩, rfl⟩
  | @reloaded _ _ edge edge' file input hkey hreload =>
      rcases @reload_cases conversions load edge file input with
        ⟨-, hsame⟩ | ⟨config, hload, hnew⟩ | ⟨-, hthrown⟩
      · cases hsame.symm.trans hreload
        exact ⟨⟨hpath, nodeId, hnode, hsends⟩, rfl⟩
      · cases hnew.symm.trans hreload
        rw [show edge.configPath = path from hpath] at hload
        exact ⟨⟨hpath, _, hl.2 config hload, hsends.reconfigure input config⟩, rfl⟩
      · cases hthrown.symm.trans hreload

theorem Step.goesOn (h : Step conversions load d l d') (hstops : l.stops = false)
    (hthrew : l.threw = false) (hd : GoesOn d.service) : GoesOn d'.service := by
  obtain ⟨hrunning, hclose, hended⟩ := hd
  cases h with
  | reloaded => exact ⟨fun _ => hrunning nofun, nofun, nofun⟩
  | looped => exact ⟨fun _ => hrunning nofun, nofun, nofun⟩
  | reloadThrew => cases hthrew
  | loopThrew => cases hthrew
  | service hstep hinside =>
      cases hstep with
      | leaveLoop => cases hrunning nofun
      | closeLog => exact absurd rfl hclose
      | reloadThrows | loopThrows => cases hinside rfl
      | signal signal _ =>
          cases signal with
          | hup => exact ⟨hrunning, hclose, hended⟩
          | term => cases hstops
          | int => cases hstops
      | setRunning => exact ⟨fun _ => rfl, nofun, nofun⟩
      | _ => exact ⟨fun _ => hrunning nofun, nofun, nofun⟩

/-- The daemon does not end by itself: when no document has a value that throws, the node ids
are valid UTF-8 and no text of the samples is cut within a character, no reload and no round
throws, and the loop is left only when a stop has been asked for. -/
theorem ends_when_asked (hS : ∀ x ∈ S, SourceTexts x) (hcuts : ∀ x ∈ S, CutsBetween x)
    (hfiles : ∀ path, ∀ r ∈ (files path).rows, PersistedFrom S r)
    (hnode : Bytes.validUtf8 first.2.node.id = true)
    (hrun : Run (Step conversions load) (boot path files first.1 first.2 running reload) labels d)
    (hlabels : ∀ l ∈ labels, l.Harmless conversions load path S) :
    (∀ l ∈ labels, l.threw = false) ∧
      (d.service.place = .closeLog ∨ d.service.place = .ended → ∃ l ∈ labels, l.stops = true) := by
  have hboot : Sends path S (boot path files first.1 first.2 running reload) :=
    ⟨rfl, _, hnode, (@SendsFrom.new [] S files hfiles).reconfigure first.1 first.2⟩
  have hsends : ∀ {labels d}, Run (Step conversions load)
      (boot path files first.1 first.2 running reload) labels d →
      (∀ l ∈ labels, l.Harmless conversions load path S) → Sends path S d :=
    fun hrun hlabels => hrun.invariant
      (fun _ _ _ hl hd h => (h.sends hS hcuts hl hd).1) hlabels hboot
  have hthrew : ∀ l ∈ labels, l.threw = false := by
    intro l hl
    obtain ⟨before, after, rfl⟩ := List.append_of_mem hl
    obtain ⟨d₁, d₂, hbefore, hstep⟩ := hrun.exists_step
    have hd := hsends hbefore fun l hl => hlabels l (List.mem_append_left _ hl)
    exact (hstep.sends hS hcuts (hlabels l hl) hd).2
  refine ⟨hthrew, fun hended => ?_⟩
  by_contra hnone
  have hlabels' : ∀ l ∈ labels, l.stops = false ∧ l.threw = false := fun l hl =>
    ⟨Bool.not_eq_true _ ▸ fun hstops => hnone ⟨l, hl, hstops⟩, hthrew l hl⟩
  have hgoesOn : GoesOn d.service := hrun.invariant (P := fun d => GoesOn d.service)
    (fun _ _ _ hl hd h => h.goesOn hl.1 hl.2 hd) hlabels' ⟨fun h => absurd rfl h, nofun, nofun⟩
  rcases hended with hended | hended
  · exact hgoesOn.place.1 hended
  · exact hgoesOn.place.2 hended

/-- A daemon that is stopped while its first round posts a sample. -/
theorem ends_when_asked_stopped :
    ∃ events d, Run (Step plainConversions fun _ => .error []) deployedDaemon
        (opening ++ .service (.signal .term) :: stopped events) d ∧
      d.service.place = .ended ∧
      (∀ l ∈ opening ++ .service (.signal .term) :: stopped events, l.threw = false) ∧
      ∃ l ∈ opening ++ .service (.signal .term) :: stopped events, l.stops = true := by
  obtain ⟨events, d, -, hended, hrun⟩ := run_stopped plainConversions fun _ => .error []
  have hresult := @ends_when_asked _ _ _ _ _ (fun _ => .empty)
    (deploymentInput, deploymentConfig "1" "remote") _ _ {deploymentSample 1}
    (fun x hx => by
      rw [Set.mem_singleton_iff.mp hx]
      exact ⟨.of_all (by decide) (by decide), .of_all (by decide) (by decide)⟩)
    (fun x hx => by
      rw [Set.mem_singleton_iff.mp hx]
      exact ⟨by decide, by decide⟩)
    (fun _ _ hr => nomatch hr) (by decide +kernel) hrun (fun l hl => by
      simp only [opening, stopped, List.cons_append, List.nil_append, List.mem_cons,
        List.not_mem_nil, or_false] at hl
      rcases hl with rfl | rfl | rfl | rfl | rfl | rfl | rfl | rfl | rfl | rfl | rfl | rfl
      all_goals first | trivial | exact fun _ x hx => List.mem_singleton.mp hx)
  exact ⟨events, d, hrun, hended, hresult.1, hresult.2 (.inr hended)⟩

end Daemon

end Bossa.Runtime
