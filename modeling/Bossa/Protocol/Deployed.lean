import Bossa.Protocol.Restart
import Bossa.Runtime.Daemon

/-!
# The deployed daemon

The daemon of `src/daemon_main.cpp`, the Worker and the network between them, over any number
of processes. The daemon takes the steps of its service loop; what a round of it finds outside
comes from the Worker and the network, and a signal, a late request or the end of the process
can come between any two steps.

A round of the loop shows as a poll, a flush and a retry, and everything else as a reload, the
end of the process or its next start, or not at all. So the deployed daemon lives one of the
lives of the edge, and what flushes have taken outlives its processes.
-/

namespace Bossa.Protocol

open Bossa.Core Telemetry Storage Sync Worker Bossa.Runtime Transition

/-- The daemon with the Worker. The runtime of the `EdgeService` is that of the system. -/
structure Site where
  service : Service
  configPath : Bytes
  config : Config
  system : System

/-- What a round of the loop finds outside: what the drivers read, the clocks and the network
of the flush and of the retry, and the requests that reach the Worker late in between. -/
structure Outside where
  poll : TickInput
  flush : Readings × Fate
  late : List (Bytes × ℕ)
  retry : Readings × Fate

def posted (route : Route) (events : List Event) : Option Exchange :=
  events.findSome? fun e =>
    match e with
    | .post route' _ exchange => if route' = route then some exchange else none
    | _ => none

namespace Outside

/-- The system after the flush of a round with the events. -/
def flushed (d1 : D1) (events : List Event) (s : System) (o : Outside) : System :=
  { s with
    taken := s.taken ++ (posted .flush events).elim [] Exchange.samples }.deliver d1 o.flush.1
      o.flush.2 (posted .flush events)

def arrive (d1 : D1) (s : System) (late : Bytes × ℕ) : System :=
  match s.posts[late.2]? with
  | none => s
  | some exchange => s.serve d1 late.1 exchange

/-- The system before the retry of a round with the events. -/
def reached (d1 : D1) (events : List Event) (s : System) (o : Outside) : System :=
  o.late.foldl (arrive d1) (o.flushed d1 events s)

def retried (d1 : D1) (events : List Event) (s : System) (o : Outside) : System :=
  (o.reached d1 events s).deliver d1 o.retry.1 o.retry.2 (posted .retry events)

/-- The input of the tick of a round with the events: the retry finds the Worker as the flush
and the late requests have left it. -/
def input (d1 : D1) (events : List Event) (s : System) (o : Outside) : TickInput :=
  { o.poll with
    flush := s.attemptInput d1 o.flush.1 o.flush.2
    countFault := false
    retry := (o.reached d1 events s).attemptInput d1 o.retry.1 o.retry.2 }

def acts (o : Outside) : List Life :=
  [.act (.poll o.poll), .act (.flush o.flush.1 o.flush.2)] ++
    (o.late.map fun late => .act (.arrive late.1 late.2)) ++
    [.act (.retry o.retry.1 o.retry.2)]

/-- The parts of a round in front of the one on the route. -/
def before (o : Outside) : Route → List Life
  | .flush => [.act (.poll o.poll)]
  | .retry => o.acts.dropLast

end Outside

namespace Site

def edge (s : Site) : EdgeService := ⟨s.configPath, s.config, s.system.runtime⟩

def daemon (s : Site) : Daemon := ⟨s.service, s.edge⟩

/-- Before the first start of the daemon, with the database files found. -/
def off (files : Bytes → PendingUploads) (database : Database) : Site :=
  ⟨⟨true, false, .ended⟩, [], {}, .off files database⟩

/-- The site with the daemon as it is after a step, and with the system. -/
def withDaemon (d : Daemon) (system : System) : Site where
  service := d.service
  configPath := d.edge.configPath
  config := d.edge.config
  system := { system with runtime := d.edge.runtime }

/-- A round of the loop has a tick. -/
def ticks (s : Site) : Bool :=
  !s.config.channels.isEmpty && !s.system.runtime.channels.entries.isEmpty

/-- The steps of the deployed daemon, with what shows of them. -/
inductive Step (conversions : YamlConversions) (load : Bytes → Except Bytes Yaml) (d1 : D1) :
    Site → List Life → Site → Prop
  /-- `main` has loaded the configuration and starts the service. -/
  | booted {s : Site} {running reload : Bool} {path : Bytes} {file : ConfigFile}
      {input : ConfigureInput} {config : Config} (hoff : s.system.running = false)
      (hkey : input.apiKey = []) (hload : loadConfig conversions load file path = .ok config) :
      Step conversions load d1 s [.boot input config]
        (withDaemon (.boot path s.system.runtime.store.files input config running reload)
          { s.system with running := true })
  /-- A step of the service loop, or a signal. -/
  | service {s : Site} {e : Service.Event} {d : Daemon} (hrunning : s.system.running = true)
      (hstep : Daemon.Step conversions load s.daemon (.service e) d)
      (hplace : d.service.place ≠ .ended ∧ d.service.place ≠ .failed) :
      Step conversions load d1 s [] (withDaemon d s.system)
  /-- `start()` returns. -/
  | returned {s : Site} {e : Service.Event} {d : Daemon} (hrunning : s.system.running = true)
      (hstep : Daemon.Step conversions load s.daemon (.service e) d)
      (hplace : d.service.place = .ended ∨ d.service.place = .failed) :
      Step conversions load d1 s [.crash none]
        (withDaemon d { s.system with running := false })
  | refused {s : Site} {file : ConfigFile} {input : ConfigureInput} {message : Bytes}
      {d : Daemon} (hrunning : s.system.running = true)
      (hload : loadConfig conversions load file s.configPath = .error (.fail message))
      (hstep : Daemon.Step conversions load s.daemon (.reloaded file input) d) :
      Step conversions load d1 s [] (withDaemon d s.system)
  | reloaded {s : Site} {file : ConfigFile} {input : ConfigureInput} {config : Config}
      {d : Daemon} (hrunning : s.system.running = true)
      (hload : loadConfig conversions load file s.configPath = .ok config)
      (hstep : Daemon.Step conversions load s.daemon (.reloaded file input) d) :
      Step conversions load d1 s [.reload input config] (withDaemon d s.system)
  | reloadThrew {s : Site} {file : ConfigFile} {d : Daemon} (hrunning : s.system.running = true)
      (hstep : Daemon.Step conversions load s.daemon (.reloadThrew file) d) :
      Step conversions load d1 s [.crash none]
        (withDaemon d { s.system with running := false })
  | looped {s : Site} {o : Outside} {now : ℤ} {events : List Event} {d : Daemon}
      (hrunning : s.system.running = true)
      (hlate : ∀ late ∈ o.late, late.2 < (o.flushed d1 events s.system).posts.length)
      (hstep : Daemon.Step conversions load s.daemon
        (.looped (o.input d1 events s.system) false now events) d) :
      Step conversions load d1 s (if s.ticks then o.acts else [])
        (withDaemon d (if s.ticks then o.retried d1 events s.system else s.system))
  /-- The payload of the flush, or that of the retry, cannot be built. -/
  | loopThrew {s : Site} {o : Outside} {done : List Life} {system : System}
      (hrunning : s.system.running = true) (hplace : s.service.place = .insideLoop)
      (hticks : s.ticks = true) (hdone : done <+: o.acts)
      (hlives : System.Lives d1 s.system done system) (hthrew : system.running = false) :
      Step conversions load d1 s done
        { s with service := { s.service with place := .ended }, system := system }
  /-- The process is ended from outside, maybe in the middle of a flush or a retry of a
  round. -/
  | killed {s : Site} {o : Outside} {done : List Life} {interrupted : Option Interrupted}
      {system : System} (hrunning : s.system.running = true)
      (hround : done ≠ [] → s.service.place = .insideLoop ∧ s.ticks = true)
      (hdone : done <+: o.acts)
      (hinterrupted : ∀ work ∈ interrupted, done = o.before work.route)
      (hlives : System.Lives d1 s.system (done ++ [.crash interrupted]) system) :
      Step conversions load d1 s (done ++ [.crash interrupted]) { s with system := system }
  /-- A request that was sent reaches the Worker late or once more. -/
  | arrived {s : Site} {serverNow : Bytes} {index : ℕ} {exchange : Exchange}
      (hposted : s.system.posts[index]? = some exchange) :
      Step conversions load d1 s [.act (.arrive serverNow index)]
        { s with system := s.system.serve d1 serverNow exchange }

variable {conversions : YamlConversions} {load : Bytes → Except Bytes Yaml} {d1 : D1}
  {s t : Site} {w w' : System} {o : Outside} {events : List Event} {runtime : TelemetryRuntime}
  {route : Route}

/-! ### The requests of a round -/

theorem posted_append (route : Route) (events events' : List Event) :
    posted route (events ++ events') = (posted route events).or (posted route events') :=
  List.findSome?_append

theorem posted_of_isPoll (h : ∀ e ∈ events, TelemetryRuntime.IsPoll e) :
    posted route events = none := by
  refine List.findSome?_eq_none_iff.mpr fun e he => ?_
  cases h e he with
  | read => rfl
  | dropped => rfl

theorem posted_attemptEvents (route route' : Route) (now : ℤ) (attempt : Attempt) :
    posted route (attemptEvents route' now attempt) =
      if route' = route then attempt.exchange else none := by
  have hstatements : posted route (attempt.statements.map Event.statement) = none :=
    List.findSome?_eq_none_iff.mpr fun e he => by
      obtain ⟨statement, -, rfl⟩ := List.mem_map.mp he
      rfl
  rw [attemptEvents, posted_append, hstatements, Option.or_none]
  cases attempt.exchange with
  | none => simp [posted]
  | some exchange => simp [posted]

/-- The POST of a flush is the only one of its events, and its samples are those that the
flush has taken. -/
theorem posted_maybeFlush {readings : Readings} {fate : Fate}
    (hflush : w.runtime.maybeFlush (w.attemptInput d1 readings fate) = .ok (events, runtime)) :
    posted .flush events = events.findSome? exchange? ∧ posted .retry events = none ∧
      w.batch readings.now = (posted .flush events).elim [] Exchange.samples := by
  rcases TelemetryRuntime.maybeFlush_cases hflush with
    ⟨hdue, rfl, -⟩ | ⟨hdue, u, buffer, attempt, -, hbuffer, hne, hupload, rfl, -⟩
  · refine ⟨rfl, rfl, ?_⟩
    change w.runtime.flushDue readings.now = false at hdue
    unfold System.batch
    rw [hdue]
    cases w.runtime.buffer <;> rfl
  · obtain ⟨request, _, hexchange, -⟩ := HttpUploader.upload_cases hne hupload
    change w.runtime.flushDue readings.now = true at hdue
    rw [posted_attemptEvents, posted_attemptEvents, findSome?_attemptEvents, if_pos rfl,
      if_neg nofun, hexchange, System.batch, hbuffer, hdue]
    exact ⟨rfl, rfl, rfl⟩

theorem posted_maybeRetry {readings : Readings} {fate : Fate}
    (hretry : w.runtime.maybeRetry false (w.attemptInput d1 readings fate) =
      .ok (events, runtime)) :
    posted .retry events = events.findSome? exchange? ∧ posted .flush events = none := by
  rcases TelemetryRuntime.maybeRetry_cases hretry with
    ⟨rfl | rfl, -⟩ | ⟨u, attempt, -, -, -, rfl, -⟩
  · exact ⟨rfl, rfl⟩
  · exact ⟨rfl, rfl⟩
  · have hretried := posted_attemptEvents .retry .retry readings.now attempt
    have hflushed := posted_attemptEvents .flush .retry readings.now attempt
    have hfound := findSome?_attemptEvents .retry readings.now attempt
    rw [if_pos rfl] at hretried
    rw [if_neg nofun] at hflushed
    exact ⟨hretried.trans hfound.symm, hflushed⟩

/-! ### The parts of a round -/

theorem pollChannels_input (d1 : D1) (events : List Event) (w : System) (o : Outside) :
    ∀ (polls : List Bytes) (index : ℕ) (s : TelemetryRuntime),
      s.pollChannels (o.input d1 events w) index polls = s.pollChannels o.poll index polls
  | [], _, _ => rfl
  | channelId :: polls, index, s => by
      simp only [TelemetryRuntime.pollChannels, pollChannels_input d1 events w o polls]
      rfl

theorem pollDue_input (d1 : D1) (events : List Event) (w : System) (o : Outside)
    (s : TelemetryRuntime) : s.pollDue (o.input d1 events w) = s.pollDue o.poll := by
  unfold TelemetryRuntime.pollDue
  simp only [pollChannels_input]
  rfl

theorem deliver_update (readings : Readings) (fate : Fate) (exchange : Option Exchange) :
    ({ w with runtime := runtime }.deliver d1 readings fate exchange : System) =
      { w.deliver d1 readings fate exchange with runtime := runtime } := by
  cases exchange with
  | none => rfl
  | some exchange =>
      simp only [System.deliver]
      split
      · rfl
      · rfl

theorem foldl_arrive_update :
    ∀ (late : List (Bytes × ℕ)) (w : System),
      late.foldl (Outside.arrive d1) { w with runtime := runtime } =
        { late.foldl (Outside.arrive d1) w with runtime := runtime }
  | [], _ => rfl
  | a :: late, w => by
      have harrive : Outside.arrive d1 { w with runtime := runtime } a =
          { Outside.arrive d1 w a with runtime := runtime } := by
        simp only [Outside.arrive]
        cases w.posts[a.2]? with
        | none => rfl
        | some exchange => rfl
      rw [List.foldl_cons, List.foldl_cons, harrive, foldl_arrive_update late]

theorem deliver_running (readings : Readings) (fate : Fate) (exchange : Option Exchange) :
    (w.deliver d1 readings fate exchange).running = w.running := by
  cases exchange with
  | none => rfl
  | some exchange =>
      rw [System.deliver]
      split <;> rfl

theorem reached_running (o : Outside) : (o.reached d1 events w).running = w.running := by
  have hlate : ∀ (late : List (Bytes × ℕ)) (v : System),
      (late.foldl (Outside.arrive d1) v).running = v.running := by
    intro late
    induction late with
    | nil => exact fun _ => rfl
    | cons a late ih =>
        intro v
        rw [List.foldl_cons, ih, Outside.arrive]
        cases v.posts[a.2]? <;> rfl
  rw [Outside.reached, hlate, Outside.flushed, deliver_running]

theorem retried_running (o : Outside) : (o.retried d1 events w).running = w.running :=
  (deliver_running o.retry.1 o.retry.2 _).trans (reached_running o)

/-- Late requests reach the Worker one after another. -/
theorem lives_late :
    ∀ (late : List (Bytes × ℕ)) (w : System), (∀ a ∈ late, a.2 < w.posts.length) →
      System.Lives d1 w (late.map fun a => .act (.arrive a.1 a.2))
        (late.foldl (Outside.arrive d1) w)
  | [], _, _ => .nil
  | a :: late, w, h => by
      rw [List.forall_mem_cons] at h
      obtain ⟨exchange, hexchange⟩ : ∃ exchange, w.posts[a.2]? = some exchange :=
        ⟨_, List.getElem?_eq_getElem h.1⟩
      have harrive : Outside.arrive d1 w a = w.serve d1 a.1 exchange := by
        rw [Outside.arrive, hexchange]
      have hlive : w.live d1 (.act (.arrive a.1 a.2)) = some (w.serve d1 a.1 exchange) := by
        change (w.posts[a.2]?).map _ = _
        rw [hexchange]
        rfl
      rw [List.foldl_cons, harrive]
      exact .cons hlive (lives_late late (w.serve d1 a.1 exchange) h.2)

/-- A round whose tick comes to its end shows as its parts. -/
theorem lives_acts (hrunning : w.running = true)
    (hlate : ∀ late ∈ o.late, late.2 < (o.flushed d1 events w).posts.length)
    (hchannels : w.runtime.channels.entries ≠ [])
    (htick : w.runtime.tick (o.input d1 events w) = .ok (events, runtime)) :
    System.Lives d1 w o.acts { o.retried d1 events w with runtime := runtime } := by
  rcases TelemetryRuntime.tick_cases htick with
    ⟨hnone, -⟩ | ⟨-, pollEvents, polled, flushEvents, flushed, retryEvents, hpoll, hflush,
      hretry, hevents⟩
  · exact absurd hnone hchannels
  have hpolls := @posted_of_isPoll _ .flush (TelemetryRuntime.pollDue_isPoll hpoll)
  have hpolls' := @posted_of_isPoll _ .retry (TelemetryRuntime.pollDue_isPoll hpoll)
  obtain ⟨hflushed, hnone, hbatch⟩ :=
    @posted_maybeFlush d1 { w with runtime := polled } flushEvents flushed o.flush.1 o.flush.2
      hflush
  obtain ⟨hretried, hnone'⟩ :=
    @posted_maybeRetry d1 { o.reached d1 events w with runtime := flushed } retryEvents runtime
      o.retry.1 o.retry.2 hretry
  have hposted : posted .flush events = flushEvents.findSome? exchange? := by
    rw [hevents, posted_append, posted_append, hpolls, hnone', Option.none_or, Option.or_none,
      hflushed]
  have hposted' : posted .retry events = retryEvents.findSome? exchange? := by
    rw [hevents, posted_append, posted_append, hpolls', hnone, Option.none_or, Option.none_or,
      hretried]
  have hpolled : w.live d1 (.act (.poll o.poll)) = some { w with runtime := polled } := by
    change w.step d1 (.poll o.poll) = _
    rw [System.step, if_pos hrunning, ← pollDue_input d1 events w o, hpoll]
    rfl
  have hflushed' : ({ w with runtime := polled } : System).live d1
      (.act (.flush o.flush.1 o.flush.2)) =
        some { o.flushed d1 events w with runtime := flushed } := by
    change System.step d1 _ (.flush o.flush.1 o.flush.2) = _
    rw [System.step, if_pos hrunning, hbatch, hflushed, ← hposted]
    have hfinish : (({ w with runtime := polled } : System).runtime.maybeFlush
        (({ w with runtime := polled } : System).attemptInput d1 o.flush.1 o.flush.2)) =
          .ok (flushEvents, flushed) := hflush
    rw [hfinish, System.finish, ← hposted]
    exact congrArg some (@deliver_update d1
      { w with taken := w.taken ++ (posted .flush events).elim [] Exchange.samples } flushed
      o.flush.1 o.flush.2 (posted .flush events))
  have hlate' := @lives_late d1 o.late { o.flushed d1 events w with runtime := flushed } hlate
  rw [foldl_arrive_update] at hlate'
  have hretried' : ({ o.reached d1 events w with runtime := flushed } : System).live d1
      (.act (.retry o.retry.1 o.retry.2)) =
        some { o.retried d1 events w with runtime := runtime } := by
    change System.step d1 _ (.retry o.retry.1 o.retry.2) = _
    have hfinish : (({ o.reached d1 events w with runtime := flushed } : System).runtime.maybeRetry
        false (({ o.reached d1 events w with runtime := flushed } : System).attemptInput d1
          o.retry.1 o.retry.2)) = .ok (retryEvents, runtime) := hretry
    rw [System.step, if_pos ((reached_running o).trans hrunning), hfinish,
      System.finish, ← hposted']
    exact congrArg some (@deliver_update d1 (o.reached d1 events w) runtime o.retry.1 o.retry.2
      (posted .retry events))
  have hlast := hlate'.append (.cons hretried' .nil)
  exact .cons hpolled (.cons hflushed' hlast)

/-- Parts that come to their ends are those of a round. -/
theorem tick_of_parts {pollEvents flushEvents retryEvents : List Event}
    {polled flushed : TelemetryRuntime} (hchannels : w.runtime.channels.entries ≠ [])
    (hpoll : w.runtime.pollDue o.poll = .ok (pollEvents, polled))
    (hflush : polled.maybeFlush (w.attemptInput d1 o.flush.1 o.flush.2) =
      .ok (flushEvents, flushed))
    (hretry : flushed.maybeRetry false ((o.reached d1 flushEvents w).attemptInput d1 o.retry.1
      o.retry.2) = .ok (retryEvents, runtime)) :
    w.runtime.tick (o.input d1 (pollEvents ++ flushEvents ++ retryEvents) w) =
      .ok (pollEvents ++ flushEvents ++ retryEvents, runtime) := by
  have hpolls := @posted_of_isPoll _ .flush (TelemetryRuntime.pollDue_isPoll hpoll)
  have hnone := (@posted_maybeRetry d1 { o.reached d1 flushEvents w with runtime := flushed }
    retryEvents runtime o.retry.1 o.retry.2 hretry).2
  have hposted : posted .flush (pollEvents ++ flushEvents ++ retryEvents) =
      posted .flush flushEvents := by
    rw [posted_append, posted_append, hpolls, hnone, Option.none_or, Option.or_none]
  have hreached : o.reached d1 (pollEvents ++ flushEvents ++ retryEvents) w =
      o.reached d1 flushEvents w := by
    rw [Outside.reached, Outside.reached, Outside.flushed, Outside.flushed, hposted]
  have hinput : o.input d1 (pollEvents ++ flushEvents ++ retryEvents) w =
      o.input d1 flushEvents w := by
    rw [Outside.input, Outside.input, hreached]
  rw [hinput, TelemetryRuntime.tick, if_neg hchannels, pollDue_input, hpoll]
  change (polled.maybeFlush (w.attemptInput d1 o.flush.1 o.flush.2) >>= fun flushed => _) = _
  rw [hflush]
  change (flushed.maybeRetry false ((o.reached d1 flushEvents w).attemptInput d1 o.retry.1
    o.retry.2) >>= fun retried => _) = _
  rw [hretry]
  rfl

/-! ### The life of the site -/

theorem withDaemon_system {d : Daemon} (h : d.edge = s.edge) (running : Bool) :
    (withDaemon d { s.system with running := running }).system =
      { s.system with running := running } := by
  simp only [withDaemon, h]
  rfl

/-- A round shows as its parts, or not at all when it has no tick. -/
theorem lives_looped {now : ℤ} {d : Daemon} (hrunning : s.system.running = true)
    (hlate : ∀ late ∈ o.late, late.2 < (o.flushed d1 events s.system).posts.length)
    (hstep : Daemon.Step conversions load s.daemon
      (.looped (o.input d1 events s.system) false now events) d) :
    System.Lives d1 s.system (if s.ticks then o.acts else [])
      (withDaemon d (if s.ticks then o.retried d1 events s.system else s.system)).system := by
  obtain ⟨pause, edge', hloop, hevents, rfl⟩ := hstep.of_looped
  rcases Daemon.loop_cases hloop with
    ⟨hempty, -, rfl⟩ | ⟨hchannels, events', runtime, htick, hsame, rfl⟩
  · have hticks : s.ticks = false := by
      change (!s.config.channels.isEmpty && _) = false
      rw [show s.config.channels.isEmpty = true from hempty]
      rfl
    rw [hticks]
    exact .nil
  · rw [hsame] at hevents
    subst hevents
    by_cases hentries : s.system.runtime.channels.entries = []
    · have hticks : s.ticks = false := by simp [ticks, hentries]
      rcases TelemetryRuntime.tick_cases htick with ⟨-, -, rfl⟩ | ⟨hne, -⟩
      · rw [hticks]
        exact .nil
      · exact absurd hentries hne
    · have hticks : s.ticks = true := by
        simp only [ticks, Bool.and_eq_true, Bool.not_eq_true', List.isEmpty_eq_false_iff]
        exact ⟨List.isEmpty_eq_false_iff.mp hchannels, hentries⟩
      rw [hticks]
      exact lives_acts hrunning hlate hentries htick

theorem simulates (conversions : YamlConversions) (load : Bytes → Except Bytes Yaml) (d1 : D1) :
    Simulates (Step conversions load d1) (fun (w : System) life w' => w.live d1 life = some w') id
      (fun s w => s.system = w) := by
  rintro s lives t w rfl hstep
  refine ⟨t.system, ?_, rfl⟩
  change System.Lives d1 s.system lives t.system
  cases hstep with
  | booted hoff hkey hload =>
      refine .cons ?_ .nil
      rw [System.live, hoff]
      rfl
  | service hrunning hstep _ =>
      have hsystem := withDaemon_system hstep.edge_of_service s.system.running
      exact hsystem.symm ▸ .nil
  | returned hrunning hstep _ =>
      refine .cons ?_ .nil
      rw [withDaemon_system hstep.edge_of_service, System.live, hrunning]
      rfl
  | reloadThrew hrunning hstep =>
      refine .cons ?_ .nil
      rw [withDaemon_system hstep.edge_of_reloadThrew, System.live, hrunning]
      rfl
  | refused hrunning hload hstep =>
      have hedge := hstep.of_reloaded
      rw [EdgeService.reload, show s.daemon.edge.configPath = s.configPath from rfl, hload] at hedge
      have hsystem := withDaemon_system (Except.ok.inj hedge).symm s.system.running
      exact hsystem.symm ▸ .nil
  | reloaded hrunning hload hstep =>
      have hedge := hstep.of_reloaded
      rw [EdgeService.reload, show s.daemon.edge.configPath = s.configPath from rfl, hload] at hedge
      refine .cons ?_ .nil
      rw [System.live, if_pos hrunning, withDaemon, ← Except.ok.inj hedge]
      rfl
  | looped hrunning hlate hstep => exact lives_looped hrunning hlate hstep
  | loopThrew _ _ _ _ hlives _ => exact hlives
  | killed _ _ _ _ hlives => exact hlives
  | arrived hposted =>
      refine .cons ?_ .nil
      change (s.system.posts[_]?).map _ = _
      rw [hposted]
      rfl

/-- A configuration that the daemon accepts is of the node and names the file. -/
def At (node path : Bytes) : Life → Prop
  | .reload _ config | .boot _ config => config.node.id = node ∧ config.localStorage.path = path
  | _ => True

/-- What shows of a step are configurations that were loaded. -/
theorem Step.keeps {node path : Bytes} {lives : List Life}
    (h : Step conversions load d1 s lives t) (hat : ∀ life ∈ lives, At node path life) :
    ∀ life ∈ lives, life.Keeps node path := by
  have hacts : ∀ {o : Outside} {done : List Life}, done <+: o.acts →
      ∀ life ∈ done, life.Keeps node path := by
    intro o done hdone life hlife
    have hmem := hdone.subset hlife
    simp only [Outside.acts, List.mem_append, List.mem_cons, List.mem_map, List.not_mem_nil,
      or_false] at hmem
    rcases hmem with ((rfl | rfl) | ⟨late, -, rfl⟩) | rfl
    all_goals trivial
  cases h with
  | @booted _ _ name file _ _ _ _ hload =>
      rw [List.forall_mem_singleton] at hat ⊢
      exact ⟨⟨conversions, load, file, name, hload⟩, hat⟩
  | @reloaded file _ _ _ _ hload _ =>
      rw [List.forall_mem_singleton] at hat ⊢
      exact ⟨⟨conversions, load, file, s.configPath, hload⟩, hat⟩
  | service | refused => exact List.forall_mem_nil _
  | returned | reloadThrew => exact List.forall_mem_singleton.mpr trivial
  | looped =>
      split
      · exact hacts (List.prefix_refl _)
      · exact List.forall_mem_nil _
  | loopThrew _ _ _ hdone => exact hacts hdone
  | killed _ _ hdone =>
      rw [List.forall_mem_append]
      exact ⟨hacts hdone, List.forall_mem_singleton.mpr trivial⟩
  | arrived => exact List.forall_mem_singleton.mpr trivial

end Site

section Deployed

variable {conversions : YamlConversions} {load : Bytes → Except Bytes Yaml} {d1 : D1}
  {node path : Bytes} {files : Bytes → PendingUploads} {database : Database}
  {labels : List (List Life)} {t : Site}

/-- What the deployed daemon has taken out of its buffer is not lost. Whatever signals come,
whatever the reloads find, whichever messages are lost or late, and however often the process
is ended, also in the middle of a flush or a retry, and started again: each sample that a
flush has taken is in the file or at the Worker, as long as the accepted configurations are
of one node and one file and the samples that flushes have taken can be sent. The batch of a
flush in whose middle the process is ended does not count as taken. -/
theorem deployed_keeps_taken
    (hrun : Run (Site.Step conversions load d1) (.off files database) labels t)
    (hat : ∀ lives ∈ labels, ∀ life ∈ lives, Site.At node path life)
    (hmemory : path ≠ Bytes.ascii ":memory:") (hid : Bytes.validUtf8 node = true)
    (hsendable : t.system.Sendable) :
    ∀ x ∈ t.system.taken, t.system.KeptAt node path x := by
  have hkeeps : ∀ lives ∈ labels, ∀ life ∈ lives, life.Keeps node path := by
    intro lives hlives
    obtain ⟨before, after, rfl⟩ := List.append_of_mem hlives
    obtain ⟨u, v, -, hstep⟩ := hrun.exists_step
    exact hstep.keeps (hat lives hlives)
  obtain ⟨w, hlives, hw⟩ := (Site.simulates conversions load d1).run hrun rfl
  subst hw
  refine System.Lives.keptAt hlives ?_ hid hmemory (.off files database) rfl hsendable
  intro life hlife
  obtain ⟨lives, hlives, hmem⟩ := List.mem_flatMap.mp hlife
  exact hkeeps lives hlives life hmem

/-- The first round of the deployment, whose request is lost. -/
def lostRound : Outside where
  poll := deploymentTick 1 (some 1) 0 0
  flush := (⟨1000000000, 1000000000, 1000000000, Bytes.ascii "now"⟩,
    .requestLost timedOut)
  late := []
  retry := (⟨1000000000, 1000000000, 1000000000, Bytes.ascii "now"⟩, .delivered)

/-- From the first step of `start()` into the first round. -/
theorem run_opening (hrunning : t.system.running = true) (hplace : t.service.place = .setRunning) :
    Run (Site.Step conversions load d1) t (List.replicate 8 [])
      { t with service := ⟨true, false, .insideLoop⟩ } := by
  obtain ⟨⟨running, reload, place⟩, configPath, config, system⟩ := t
  subst hplace
  have hstep : ∀ {u v : Service} {e : Service.Event}, Service.Step u e v → u.place.inside = false →
      v.place ≠ .ended ∧ v.place ≠ .failed →
      Site.Step conversions load d1 ⟨u, configPath, config, system⟩ []
        ⟨v, configPath, config, system⟩ :=
    fun {u _ _} hstep hinside hplace => .service (s := ⟨u, configPath, config, system⟩) hrunning
      (.service hstep fun _ => hinside) hplace
  exact .cons (hstep .setRunning rfl ⟨nofun, nofun⟩) <|
    .cons (hstep .setReload rfl ⟨nofun, nofun⟩) <|
    .cons (hstep .openLogging rfl ⟨nofun, nofun⟩) <|
    .cons (hstep .installHandlers rfl ⟨nofun, nofun⟩) <|
    .cons (hstep .announce rfl ⟨nofun, nofun⟩) <|
    .cons (hstep .enterLoop rfl ⟨nofun, nofun⟩) <|
    .cons (hstep .noReloadNeeded rfl ⟨nofun, nofun⟩) <|
    .cons (hstep .callLoop rfl ⟨nofun, nofun⟩) .nil

def deployedSite : Site where
  service := ⟨true, false, .insideLoop⟩
  configPath := Bytes.ascii "config.yaml"
  config := deploymentConfig "1" "remote"
  system := .start (deployed "1" "remote") .empty

theorem run_deployedSite :
    Run (Site.Step plainConversions (fun _ => .ok (deploymentDocument "1" "remote")) .plain)
      (.off (fun _ => .empty) .empty)
      ([.boot deploymentInput (deploymentConfig "1" "remote")] :: List.replicate 8 [])
      deployedSite := by
  have hboot : Site.Step plainConversions (fun _ => .ok (deploymentDocument "1" "remote")) .plain
      (.off (fun _ => .empty) .empty) [.boot deploymentInput (deploymentConfig "1" "remote")]
      { deployedSite with service := ⟨true, false, .setRunning⟩ } :=
    .booted rfl rfl deploymentResult_one_remote
  exact .cons hboot (run_opening rfl rfl)

/-- A round that comes to its end, with a check of its events. -/
theorem exists_lostRound :
    ∃ events runtime, deployedSite.system.runtime.tick
        (lostRound.input .plain events deployedSite.system) = .ok (events, runtime) ∧
      ∃ exchange, posted .flush events = some exchange ∧ exchange.samples ≠ [] ∧
        ∀ x ∈ exchange.samples, Complete x ∧ x.value.isFinite = true ∧ ValidText x := by
  have hcheck : ((deployed "1" "remote").pollDue lostRound.poll).toOption.any (fun polled =>
      (polled.2.maybeFlush (deployedSite.system.attemptInput .plain lostRound.flush.1
        lostRound.flush.2)).toOption.any fun flushed =>
      (flushed.2.maybeRetry false ((lostRound.reached .plain flushed.1
        deployedSite.system).attemptInput .plain lostRound.retry.1
          lostRound.retry.2)).toOption.any fun retried =>
      (posted .flush (polled.1 ++ flushed.1 ++ retried.1)).any fun exchange =>
        decide (exchange.samples ≠ [] ∧
          ∀ x ∈ exchange.samples, Complete x ∧ x.value.isFinite = true ∧ ValidText x)) = true := by
    decide +kernel
  obtain ⟨polled, hpoll, hcheck⟩ := Abort.exists_ok_of_any hcheck
  obtain ⟨flushed, hflush, hcheck⟩ := Abort.exists_ok_of_any hcheck
  obtain ⟨retried, hretry, hcheck⟩ := Abort.exists_ok_of_any hcheck
  obtain ⟨exchange, hposted, hcheck⟩ := Option.any_eq_true _ _ |>.mp hcheck
  have hentries : (deployed "1" "remote").channels.entries ≠ [] :=
    TelemetryRuntime.configure_channels_ne_nil configure_one_remote (by decide +kernel)
  exact ⟨_, _, Site.tick_of_parts hentries hpoll hflush hretry, exchange, hposted,
    of_decide_eq_true hcheck⟩

/-- A process persists a reading and is killed. -/
theorem deployed_keeps_taken_killed :
    ∃ labels t, Run (Site.Step plainConversions
        (fun _ => .ok (deploymentDocument "1" "remote")) .plain) (.off (fun _ => .empty) .empty)
          labels t ∧
      t.system.running = false ∧ t.system.taken ≠ [] ∧
      ∀ x ∈ t.system.taken, t.system.KeptAt (deploymentConfig "1" "remote").node.id
        (deploymentConfig "1" "remote").localStorage.path x := by
  obtain ⟨events, runtime, htick, exchange, hposted, hne, hgood⟩ := exists_lostRound
  obtain ⟨hevents, pause, hloop⟩ :=
    @Daemon.loop_of_tick deployedSite.edge _ _ _ false 0 (by decide +kernel) htick
  let round : System := lostRound.retried .plain events deployedSite.system
  let after := Site.withDaemon ⟨⟨true, false, .testRunning⟩, { deployedSite.edge with
    runtime := runtime }⟩ round
  have htaken : round.taken = exchange.samples := by
    simp [round, Outside.retried, Outside.reached, Outside.flushed, lostRound, hposted,
      deployedSite, System.start]
  have hlooped : Site.Step plainConversions (fun _ => .ok (deploymentDocument "1" "remote")) .plain
      deployedSite lostRound.acts after := by
    have hticks : deployedSite.ticks = true := by decide +kernel
    have hstep := @Site.Step.looped plainConversions
      (fun _ => .ok (deploymentDocument "1" "remote")) .plain deployedSite lostRound 0 events
      ⟨⟨true, false, .testRunning⟩, { deployedSite.edge with runtime := runtime }⟩ rfl nofun
      (.of_loop hloop hevents)
    rwa [hticks] at hstep
  have hkilled : Site.Step plainConversions (fun _ => .ok (deploymentDocument "1" "remote")) .plain
      after [.crash none] { after with system := { after.system with running := false } } := by
    have hrunning : after.system.running = true := Site.retried_running lostRound
    have hlive : after.system.live .plain (.crash none) =
        some { after.system with running := false } := if_pos hrunning
    exact .killed (o := lostRound) hrunning (fun h => absurd rfl h) List.nil_prefix nofun
      (.cons hlive .nil)
  have hrun := (run_deployedSite.snoc hlooped).snoc hkilled
  have hsendable : ({ after.system with running := false } : System).Sendable :=
    fun x hx => hgood x (htaken ▸ hx)
  refine ⟨_, _, hrun, rfl, ?_, deployed_keeps_taken hrun ?_ (by decide +kernel)
    (by decide +kernel) hsendable⟩
  · change round.taken ≠ []
    rw [htaken]
    exact hne
  · simp [Site.At, Outside.acts, lostRound]

end Deployed

end Bossa.Protocol
