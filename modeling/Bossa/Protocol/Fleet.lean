import Bossa.Protocol.Delivery
import Bossa.Protocol.Identity
import Bossa.Transition.Simulation
import Bossa.Worker.Concurrent

/-!
# A fleet of edges

Many edges report to one Worker, and their steps interleave in any order. The Worker
answers a request without looking at the rows of other nodes, and no request touches
them, so an edge takes part in a run of the fleet as it would in a run of its own: the
fleet, seen from an edge, is a run of the edge and the Worker alone.
-/

namespace Bossa.Protocol

open Bossa.Core Telemetry Storage Sync Worker Bossa.Runtime

/-- The part of a system that belongs to the edge. -/
structure Edge where
  runtime : TelemetryRuntime
  running : Bool
  posts : List Exchange
  accepted : List Exchange
  taken : List StoredSample

def Edge.system (e : Edge) (database : Database) : System where
  runtime := e.runtime
  running := e.running
  database := database
  posts := e.posts
  accepted := e.accepted
  taken := e.taken

def System.edge (s : System) : Edge where
  runtime := s.runtime
  running := s.running
  posts := s.posts
  accepted := s.accepted
  taken := s.taken

@[simp] theorem System.edge_system (s : System) : s.edge.system s.database = s := rfl

/-- The database of the Worker and the edges. -/
structure Fleet (ι : Type*) where
  database : Database
  edges : ι → Edge

def ofNode (node : Bytes) (k : PointKey) : Bool := k.nodeId = .text node

namespace Fleet

variable {ι : Type*}

def system (F : Fleet ι) (i : ι) : System := (F.edges i).system F.database

/-- The same when the Worker has the points of this edge only. -/
def alone (node : ι → Bytes) (F : Fleet ι) (i : ι) : System :=
  (F.edges i).system
    { F.database with
      telemetryPoints := F.database.telemetryPoints.restrict (ofNode (node i)) }

/-- The runtime of an edge was configured with a file that names the node. -/
def Configured (node : Bytes) (runtime : TelemetryRuntime) : Prop :=
  ∃ (conversions : YamlConversions) (load : Bytes → Except Bytes Yaml) (file : ConfigFile)
    (path : Bytes) (config : Config) (input : ConfigureInput) (s₀ : TelemetryRuntime),
    loadConfig conversions load file path = .ok config ∧
      s₀.configure input config = (true, runtime) ∧ config.node.id = node

theorem Configured.ready {id : Bytes} {runtime : TelemetryRuntime}
    (h : Configured id runtime) (database : Database) :
    (System.start runtime database).Ready id := by
  obtain ⟨conversions, load, file, path, config, input, s₀, hload, hconfigure, rfl⟩ := h
  exact .start database hload hconfigure

theorem Configured.ne_nil {id : Bytes} {runtime : TelemetryRuntime}
    (h : Configured id runtime) : id ≠ [] := by
  obtain ⟨conversions, load, file, path, config, input, s₀, hload, hconfigure, rfl⟩ := h
  exact (loadConfig_valid hload).nodeId_ne_nil

/-- Every edge is ready. -/
def Ready (node : ι → Bytes) (F : Fleet ι) : Prop := ∀ i, (F.system i).Ready (node i)

def start (runtimes : ι → TelemetryRuntime) (database : Database) : Fleet ι where
  database := database
  edges i := (System.start (runtimes i) database).edge

theorem ready_start {node : ι → Bytes} {runtimes : ι → TelemetryRuntime}
    (hedges : ∀ i, Configured (node i) (runtimes i)) (database : Database) :
    (Fleet.start runtimes database).Ready node :=
  fun i => (hedges i).ready database

variable [DecidableEq ι]

/-- The fleet with an edge and the database of a system. -/
def replace (F : Fleet ι) (i : ι) (t : System) : Fleet ι where
  database := t.database
  edges := Function.update F.edges i t.edge

@[simp] theorem system_replace_self (F : Fleet ι) (i : ι) (t : System) :
    (F.replace i t).system i = t := by
  simp [system, replace]

theorem system_replace_of_ne (F : Fleet ι) {i j : ι} (hne : j ≠ i) (t : System) :
    (F.replace i t).system j = { F.system j with database := t.database } := by
  simp [system, replace, Function.update_of_ne hne, Edge.system]

/-- An edge takes a step, or a request that it sent arrives. -/
def step (d1 : D1) (F : Fleet ι) (label : ι × Action) : Option (Fleet ι) :=
  ((F.system label.1).step d1 label.2).map (F.replace label.1)

/-- A run of the fleet. -/
abbrev Steps (d1 : D1) : Fleet ι → List (ι × Action) → Fleet ι → Prop :=
  Transition.Run fun F label F' => F.step d1 label = some F'

def actionsOf (i : ι) (label : ι × Action) : List Action :=
  if label.1 = i then [label.2] else []

end Fleet

section Agreement

variable {d1 : D1} {node : Bytes} {s s' t : System}

/-- The second system is the first one with nothing but the points of the node. -/
structure Agrees (node : Bytes) (s t : System) : Prop where
  edge : t.edge = s.edge
  points : t.database.telemetryPoints = s.database.telemetryPoints.restrict (ofNode node)

theorem answer_congr (d1 : D1) (serverNow : Bytes) (request : HttpRequest)
    (db db' : Database) : (answer d1 serverNow request db').1 =
      (answer d1 serverNow request db).1 :=
  handleTelemetry_answer_congr _ _ _ _ _ _

theorem attemptInput_congr (d1 : D1) (readings : Readings) (fate : Fate) (s t : System) :
    t.attemptInput d1 readings fate = s.attemptInput d1 readings fate := by
  have hclient : (fun request =>
        fate.response (answer d1 readings.serverNow request t.database).1) =
      fun request => fate.response (answer d1 readings.serverNow request s.database).1 := by
    funext request
    rw [answer_congr d1 readings.serverNow request s.database t.database]
  simp only [System.attemptInput, hclient]

theorem nodeId_of_sent {exchange : Exchange} (hsent : Sent node exchange) {p : TelemetryPoint}
    (hp : p ∈ (toRequest exchange.request).points d1) : p.nodeId = .text node := by
  obtain ⟨u, sentAt, rfl, hrequest⟩ := hsent
  have hnode := nodeId_of_mem_points hp
  obtain ⟨batch, hbatch, hv⟩ := Option.bind_eq_some_iff.mp hnode
  obtain ⟨nodeId, samples⟩ := batch
  obtain ⟨-, payload, hbody, hread⟩ := Request.batch?_eq_some_iff.mp hbatch
  cases hbody
  rw [request_body hrequest, readPayload_payload] at hread
  split at hread
  · cases hread
  · cases hread
    simpa [d1.bind_str, Except.toOption, D1.toText, eq_comm] using hv

theorem serve_points (serverNow : Bytes) (exchange : Exchange) (s : System) :
    (s.serve d1 serverNow exchange).database.telemetryPoints =
      s.database.telemetryPoints.insertAll ((toRequest exchange.request).points d1) :=
  handleTelemetry_telemetryPoints

theorem Agrees.serve (h : Agrees node s t) (serverNow : Bytes) {exchange : Exchange}
    (hsent : Sent node exchange) :
    Agrees node (s.serve d1 serverNow exchange) (t.serve d1 serverNow exchange) where
  edge := by
    have hedge := h.edge
    simp only [System.edge, Edge.mk.injEq] at hedge
    obtain ⟨hruntime, hrunning, hposts, haccepted, htaken⟩ := hedge
    simp only [System.serve, System.edge, answer_congr d1 serverNow exchange.request
      s.database t.database, hruntime, hrunning, hposts, haccepted, htaken]
  points := by
    have hown : ((toRequest exchange.request).points d1).filter
        (fun p => ofNode node p.key) = (toRequest exchange.request).points d1 :=
      List.filter_eq_self.mpr fun p hp => decide_eq_true (nodeId_of_sent hsent hp)
    rw [serve_points, serve_points, Keyed.restrict_insertAll, hown, h.points]

theorem restrict_serve {node' : Bytes} (hne : node' ≠ node) (serverNow : Bytes)
    {exchange : Exchange} (hsent : Sent node' exchange) :
    (s.serve d1 serverNow exchange).database.telemetryPoints.restrict (ofNode node) =
      s.database.telemetryPoints.restrict (ofNode node) := by
  have hnone : ((toRequest exchange.request).points d1).filter
      (fun p => ofNode node p.key) = [] := by
    refine List.filter_eq_nil_iff.mpr fun p hp hown => hne ?_
    have hnode : SqlValue.text node' = .text node :=
      (nodeId_of_sent hsent hp).symm.trans (of_decide_eq_true hown)
    exact SqlValue.text.inj hnode
  rw [serve_points, Keyed.restrict_insertAll, hnone, Keyed.insertAll_nil]

theorem Agrees.exists_eq (h : Agrees node s t) : ∃ database : Database,
    t = { s with database := database } ∧
      database.telemetryPoints = s.database.telemetryPoints.restrict (ofNode node) := by
  obtain ⟨hedge, hpoints⟩ := h
  refine ⟨t.database, ?_, hpoints⟩
  cases s
  cases t
  simp only [System.edge, Edge.mk.injEq] at hedge
  obtain ⟨rfl, rfl, rfl, rfl, rfl⟩ := hedge
  rfl

theorem Agrees.deliver (h : Agrees node s t) (readings : Readings) (fate : Fate)
    {posted : Option Exchange} (hsent : ∀ exchange ∈ posted, Sent node exchange) :
    Agrees node (s.deliver d1 readings fate posted) (t.deliver d1 readings fate posted) := by
  obtain ⟨database, rfl, hpoints⟩ := h.exists_eq
  cases posted with
  | none => exact ⟨rfl, hpoints⟩
  | some exchange =>
      have hposted : Agrees node { s with posts := s.posts ++ [exchange] }
          { s with posts := s.posts ++ [exchange], database := database } := ⟨rfl, hpoints⟩
      rw [System.deliver, System.deliver]
      split
      · exact hposted.serve readings.serverNow (hsent exchange rfl)
      · exact hposted

/-- A step of the edge is possible with the points of its node only, and it leads to
systems that agree. -/
theorem Agrees.step (h : Agrees node s t) (hready : s.Ready node) {action : Action}
    (hstep : s.step d1 action = some s') :
    ∃ t', t.step d1 action = some t' ∧ Agrees node s' t' := by
  obtain ⟨database, rfl, hpoints⟩ := h.exists_eq
  cases action with
  | poll input =>
      rw [System.step] at hstep
      split at hstep
      · next hrunning =>
          obtain ⟨polled, hpolled, rfl⟩ := Option.map_eq_some_iff.mp hstep
          refine ⟨{ s with runtime := polled.2, database := database }, ?_, rfl, hpoints⟩
          simp only [System.step, hrunning, if_true, hpolled, Option.map_some]
      · cases hstep
  | flush readings fate =>
      rw [System.step] at hstep
      split at hstep
      · next hrunning =>
          cases hstep
          refine ⟨_, if_pos hrunning, ?_⟩
          rw [attemptInput_congr d1 readings fate s { s with database := database }]
          dsimp only
          cases hflush : s.runtime.maybeFlush (s.attemptInput d1 readings fate) with
          | error e => exact ⟨rfl, hpoints⟩
          | ok r =>
              have htaken : Agrees node
                  { s with taken := s.taken ++ s.batch readings.now, runtime := r.2 }
                  { s with taken := s.taken ++ s.batch readings.now, runtime := r.2
                           database := database } := ⟨rfl, hpoints⟩
              exact htaken.deliver readings fate (System.flush_sent hready hflush)
      · cases hstep
  | retry readings fate =>
      rw [System.step] at hstep
      split at hstep
      · next hrunning =>
          cases hstep
          refine ⟨_, if_pos hrunning, ?_⟩
          rw [attemptInput_congr d1 readings fate s { s with database := database }]
          dsimp only
          cases hretry : s.runtime.maybeRetry false (s.attemptInput d1 readings fate) with
          | error e => exact ⟨rfl, hpoints⟩
          | ok r =>
              have hruntime : Agrees node { s with runtime := r.2 }
                  { s with runtime := r.2, database := database } := ⟨rfl, hpoints⟩
              exact hruntime.deliver readings fate (System.retry_sent hready hretry)
      · cases hstep
  | arrive serverNow index =>
      obtain ⟨exchange, hposted, rfl⟩ := Option.map_eq_some_iff.mp hstep
      have hagrees : Agrees node s { s with database := database } := ⟨rfl, hpoints⟩
      refine ⟨System.serve d1 serverNow exchange { s with database := database }, ?_,
        hagrees.serve serverNow (hready.sent _ (List.mem_of_getElem? hposted))⟩
      simp only [System.step, hposted, Option.map_some]

/-- What another edge does leaves the points of the node alone. -/
theorem restrict_effect {node' : Bytes} (hne : node' ≠ node) (hready : s.Ready node')
    (heffect : System.Effect d1 s s') :
    s'.database.telemetryPoints.restrict (ofNode node) =
      s.database.telemetryPoints.restrict (ofNode node) := by
  have hdeliver : ∀ (u : System) (readings : Readings) (fate : Fate)
      (posted : Option Exchange), u.database = s.database →
      (∀ exchange ∈ posted, Sent node' exchange) →
      (u.deliver d1 readings fate posted).database.telemetryPoints.restrict (ofNode node) =
        s.database.telemetryPoints.restrict (ofNode node) := by
    intro u readings fate posted hu hsent
    cases posted with
    | none => rw [System.deliver, hu]
    | some exchange =>
        rw [System.deliver]
        split
        · rw [restrict_serve hne readings.serverNow (hsent exchange rfl), hu]
        · rw [hu]
  cases heffect with
  | polled _ => rfl
  | flushed hflush => exact hdeliver _ _ _ _ rfl (System.flush_sent hready hflush)
  | flushThrew _ => rfl
  | retried hretry => exact hdeliver _ _ _ _ rfl (System.retry_sent hready hretry)
  | retryThrew => rfl
  | served hposted => exact restrict_serve hne _ (hready.sent _ hposted)

end Agreement

namespace Fleet

variable {ι : Type*} [DecidableEq ι] {d1 : D1} {node : ι → Bytes} {F F' : Fleet ι}
  {labels : List (ι × Action)}

theorem Ready.step (hready : F.Ready node) {label : ι × Action}
    (hstep : F.step d1 label = some F') : F'.Ready node := by
  obtain ⟨t, ht, rfl⟩ := Option.map_eq_some_iff.mp hstep
  intro i
  by_cases hi : i = label.1
  · subst hi
    rw [system_replace_self]
    exact (hready _).effect (System.effect_of_step ht)
  · rw [system_replace_of_ne F hi]
    exact ⟨(hready i).uploader, (hready i).db, (hready i).sent⟩

/-- The fleet is simulated by each of its edges, and what the others do is not seen. -/
theorem simulates (d1 : D1) (hnode : Function.Injective node) (i : ι) :
    Transition.Simulates (fun F label F' => Fleet.step d1 F label = some F')
      (fun s action t => System.step d1 s action = some t) (actionsOf i)
      fun F t => F.Ready node ∧ Agrees (node i) (F.system i) t := by
  rintro F ⟨j, action⟩ F' t ⟨hready, hagrees⟩ hstep
  have hready' := hready.step hstep
  obtain ⟨u, hu, rfl⟩ := Option.map_eq_some_iff.mp hstep
  by_cases hj : j = i
  · subst hj
    obtain ⟨t', ht', hafter⟩ := hagrees.step (hready j) hu
    refine ⟨t', ?_, hready', ?_⟩
    · rw [actionsOf, if_pos rfl]
      exact Transition.Run.nil.snoc ht'
    · rwa [system_replace_self]
  · refine ⟨t, ?_, hready', ?_⟩
    · rw [actionsOf, if_neg hj]
      exact .nil
    · have hsame := restrict_effect (hnode.ne hj) (hready j) (System.effect_of_step hu)
      rw [system_replace_of_ne F (Ne.symm hj)]
      exact ⟨hagrees.edge, hagrees.points.trans hsame.symm⟩

variable {runtimes : ι → TelemetryRuntime} {database : Database}

theorem alone_of_run (hedges : ∀ i, Configured (node i) (runtimes i))
    (hnode : Function.Injective node)
    (hrun : Fleet.Steps d1 (.start runtimes database) labels F) (i : ι) :
    ∃ t, System.Steps d1 ((Fleet.start runtimes database).alone node i)
        (labels.flatMap (actionsOf i)) t ∧
      Agrees (node i) (F.system i) t := by
  have hstart : Agrees (node i) ((Fleet.start runtimes database).system i)
      ((Fleet.start runtimes database).alone node i) := ⟨rfl, rfl⟩
  obtain ⟨t, halone, -, hagrees⟩ :=
    (simulates d1 hnode i).run hrun ⟨ready_start hedges database, hstart⟩
  exact ⟨t, halone, hagrees⟩

section Deployment

/-!
Two edges, each with one channel of a simulated sensor.
-/

/-- The document of the second configuration. -/
def secondDocument : Yaml :=
  .map
    [(yamlText "config_version", yamlText "1"),
      (yamlText "node", .map
        [(yamlText "id", yamlText "edge-2"), (yamlText "api_key_file", yamlText "key")]),
      (yamlText "server", .map
        [(yamlText "url", yamlText "http://host"), (yamlText "max_batch_size", yamlText "1")]),
      (yamlText "channels", .sequence
        [.map
          [(yamlText "id", yamlText "t"), (yamlText "driver", yamlText "sim"),
            (yamlText "sample_rate_hz", yamlText "1"),
            (yamlText "sync", .map
              [(yamlText "destinations", .sequence [yamlText "remote"])])]])]

def secondFile : ConfigFile where
  «exists» := some true
  size := some 201
  opens := true
  text := some (Bytes.ascii
    ("config_version: 1\nnode:\n  id: edge-2\n  api_key_file: key\nserver:\n  url: http://host\n" ++
      "  max_batch_size: 1\nchannels:\n  - id: t\n    driver: sim\n    sample_rate_hz: 1\n" ++
      "    sync:\n      destinations: [remote]\n"))

def secondResult : ConfigLoadResult Config :=
  loadConfig plainConversions (fun _ => .ok secondDocument) secondFile (Bytes.ascii "config.yaml")

def edgeId (second : Bool) : Bytes :=
  if second then Bytes.ascii "edge-2" else (deploymentConfig "1" "remote").node.id

def edgeRuntime (second : Bool) : TelemetryRuntime :=
  if second then
    ((TelemetryRuntime.new fun _ => .empty).configure deploymentInput
      (secondResult.toOption.getD {})).2
  else deployed "1" "remote"

theorem configured_second : Configured (edgeId true) (edgeRuntime true) := by
  have hcheck : (secondResult.toOption.any fun config =>
      ((TelemetryRuntime.new fun _ => .empty).configure deploymentInput config).1 &&
        config.node.id = Bytes.ascii "edge-2") = true := by
    decide +kernel
  obtain ⟨config, hconfig, hchecked⟩ := Option.any_eq_true _ _ |>.mp hcheck
  rw [Bool.and_eq_true, decide_eq_true_eq] at hchecked
  have hloaded : secondResult = .ok (secondResult.toOption.getD {}) :=
    eq_ok_getD (by rw [hconfig]; rfl)
  have hruntime : edgeRuntime true =
      ((TelemetryRuntime.new fun _ => .empty).configure deploymentInput config).2 := by
    rw [edgeRuntime, if_pos rfl, hconfig, Option.getD_some]
  rw [hconfig, Option.getD_some] at hloaded
  exact ⟨_, _, _, _, config, _, _, hloaded, Prod.ext hchecked.1 hruntime.symm, hchecked.2⟩

theorem configured_edgeRuntime : ∀ second, Configured (edgeId second) (edgeRuntime second)
  | false => ⟨_, _, _, _, _, _, _, deploymentResult_one_remote, configure_one_remote, rfl⟩
  | true => configured_second

theorem edgeId_false : edgeId false = Bytes.ascii "edge-1" := by
  decide +kernel

theorem edgeId_injective : Function.Injective edgeId := by
  have hne : edgeId true ≠ edgeId false := by
    rw [edgeId_false]
    decide
  intro a b h
  cases a <;> cases b
  · rfl
  · exact absurd h.symm hne
  · exact absurd h hne
  · rfl

/-- Both edges poll and flush, and the first request of the first edge is lost. -/
def edgeLabels : List (Bool × Action) :=
  [(false, .poll (deploymentTick 1 (some 1) 0 0)),
    (true, .poll (deploymentTick 1 (some 1) 0 0)),
    (false, .flush ⟨1000000000, 1000000000, 1000000000, Bytes.ascii "now"⟩
      (.requestLost timedOut)),
    (true, .flush ⟨1000000000, 1000000000, 1000000000, Bytes.ascii "now"⟩ .delivered),
    (false, .retry ⟨10000000000, 10000000000, 10000000000, Bytes.ascii "now"⟩ .delivered)]

theorem exists_edgeRun : ∃ F : Fleet Bool,
    Fleet.Steps .plain (.start edgeRuntime .empty) edgeLabels F ∧
      F.database.telemetryPoints.rows.length = 2 ∧
      ∀ second, (F.edges second).taken ≠ [] ∧ (F.system second).Sendable := by
  have hcheck : ((edgeLabels.foldlM (Fleet.step .plain) (.start edgeRuntime .empty)).any fun F =>
      decide (F.database.telemetryPoints.rows.length = 2 ∧ ∀ second,
        (F.edges second).taken ≠ [] ∧ ∀ x ∈ (F.edges second).taken,
          Complete x ∧ x.value.isFinite = true ∧ ValidText x)) = true := by
    decide +kernel
  obtain ⟨F, hrun, hF⟩ := Option.any_eq_true _ _ |>.mp hcheck
  have hstored := of_decide_eq_true hF
  exact ⟨F, .of_foldlM hrun, hstored⟩

end Deployment

/-- An edge cannot tell the fleet from the Worker alone. However the steps of the edges
interleave, the steps of an edge are a run of it with a Worker that has no points but
those of its node, and at the end both have led the edge to the same state and the same
exchanges, and the node to the same points. -/
theorem projects (hedges : ∀ i, Configured (node i) (runtimes i))
    (hnode : Function.Injective node)
    (hrun : Fleet.Steps d1 (.start runtimes database) labels F) (i : ι) :
    ∃ t, System.Steps d1
        (.start (runtimes i)
          { database with
            telemetryPoints := database.telemetryPoints.restrict (ofNode (node i)) })
        (labels.flatMap (actionsOf i)) t ∧
      t.edge = F.edges i ∧
      t.database.telemetryPoints.rows =
        F.database.telemetryPoints.rows.filter fun p => ofNode (node i) p.key := by
  obtain ⟨t, halone, hedge, hpoints⟩ := alone_of_run hedges hnode hrun i
  exact ⟨t, halone, hedge, congrArg Keyed.rows hpoints⟩

theorem projects_two_edges : ∃ F : Fleet Bool, F.database.telemetryPoints.rows.length = 2 ∧
    ∃ t, System.Steps .plain
        (.start (edgeRuntime true)
          { Database.empty with
            telemetryPoints := Database.empty.telemetryPoints.restrict
              (ofNode (edgeId true)) })
        (edgeLabels.flatMap (actionsOf true)) t ∧
      t.edge = F.edges true ∧
      t.database.telemetryPoints.rows =
        F.database.telemetryPoints.rows.filter fun p =>
          ofNode (edgeId true) p.key := by
  obtain ⟨F, hrun, hrows, -⟩ := exists_edgeRun
  exact ⟨F, hrows, projects configured_edgeRuntime edgeId_injective hrun true⟩

/-- Delivery in a fleet: whichever messages of which edges are lost, and in whichever
order the edges take their steps, a sample that a flush of an edge has taken is in its
offline table or at the Worker, and what the Worker has under the node of an edge that
edge has sent, when the samples that its flushes have taken can be sent. -/
theorem keeps_taken (hedges : ∀ i, Configured (node i) (runtimes i))
    (hnode : Function.Injective node) (hempty : database.telemetryPoints.rows = [])
    (hrun : Fleet.Steps d1 (.start runtimes database) labels F) {i : ι}
    (hid : Bytes.validUtf8 (node i) = true) (hsendable : (F.system i).Sendable) :
    (∀ x ∈ (F.edges i).taken, (F.system i).Held (node i) x) ∧
      ∀ p ∈ F.database.telemetryPoints.rows, p.nodeId = .text (node i) →
        ∃ e ∈ (F.edges i).posts, ∃ x ∈ e.samples, Complete x ∧ p = wirePoint (node i) x := by
  obtain ⟨t, halone, hagrees⟩ := alone_of_run hedges hnode hrun i
  obtain ⟨points, rfl, hpoints⟩ := hagrees.exists_eq
  have hready := (hedges i).ready
    { database with telemetryPoints := database.telemetryPoints.restrict (ofNode (node i)) }
  have hnone : (database.telemetryPoints.restrict (ofNode (node i))).rows = [] := by
    change database.telemetryPoints.rows.filter _ = []
    rw [hempty, List.filter_nil]
  have htraced := System.Steps.traced halone hready (.start _ hnone)
  constructor
  · intro x hx
    have hkept := System.Steps.kept halone (hedges i).ne_nil hid hready rfl hsendable x hx
    refine hkept.held.imp_right fun hkey => ?_
    rw [hpoints] at hkey
    obtain ⟨p, hp, hpkey⟩ := Keyed.mem_keys.mp hkey
    exact Keyed.mem_keys.mpr ⟨p, List.mem_of_mem_filter hp, hpkey⟩
  · intro p hp hown
    refine htraced.origin ?_
    rw [hpoints]
    exact List.mem_filter.mpr ⟨hp, decide_eq_true hown⟩

theorem keeps_taken_two_edges : ∃ F : Fleet Bool, ∀ second, (F.edges second).taken ≠ [] ∧
    (∀ x ∈ (F.edges second).taken, (F.system second).Held (edgeId second) x) ∧
      ∀ p ∈ F.database.telemetryPoints.rows,
        p.nodeId = .text (edgeId second) →
          ∃ e ∈ (F.edges second).posts, ∃ x ∈ e.samples,
            Complete x ∧ p = wirePoint (edgeId second) x := by
  obtain ⟨F, hrun, -, hedges⟩ := exists_edgeRun
  refine ⟨F, fun second => ⟨(hedges second).1, ?_⟩⟩
  have hid : Bytes.validUtf8 (edgeId second) = true := by
    cases second with
    | false =>
        rw [edgeId_false]
        decide
    | true => decide
  exact keeps_taken configured_edgeRuntime edgeId_injective rfl hrun hid (hedges second).2

end Fleet

end Bossa.Protocol
