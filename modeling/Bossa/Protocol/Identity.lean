import Bossa.Protocol.Attempts

/-!
# The identity of a record

The Worker tells records apart by the node, the id that is sent and the time as
text: the first 63 bytes of the channel id and the whole second. Its table holds,
for every key, the point of the first sample with that key among those of the POSTs
it has answered with 202. So a sample of an accepted POST has a point under its key,
which carries its value unless another sample came before it under the same key.
-/

namespace Bossa.Protocol

open Bossa.Core Telemetry Storage Sync Worker Bossa.Runtime

theorem wireKey_fromSample_eq_iff {node : Bytes} {a b : Sample} {p q : Priority} :
    wireKey node (.fromSample a p) = wireKey node (.fromSample b q) ↔
      Bytes.cString (a.channelId.take 63) = Bytes.cString (b.channelId.take 63) ∧
        a.timestamp.tdiv 1000000000 = b.timestamp.tdiv 1000000000 :=
  wireKey_eq_iff

namespace System

/-- The complete samples of the POSTs that the Worker has answered with 202, in the order in
which it did. -/
def arrived (s : System) : List StoredSample :=
  (s.accepted.flatMap Exchange.samples).filter fun x => Complete x

/-- The table holds the points of the samples that have arrived, the first one under each
key. -/
structure Traced (node : Bytes) (s : System) : Prop where
  rows : s.database.telemetryPoints = Keyed.empty.insertAll (s.arrived.map (wirePoint node))
  notNull : ∀ x ∈ s.arrived, (wirePoint node x).NotNull
  posted : ∀ e ∈ s.accepted, e ∈ s.posts

variable {d1 : D1} {node : Bytes} {s t : System} {readings : Readings} {fate : Fate}
  {x : StoredSample}

theorem mem_arrived :
    x ∈ s.arrived ↔ (∃ e ∈ s.accepted, x ∈ e.samples) ∧ Complete x := by
  rw [arrived, List.mem_filter, List.mem_flatMap, decide_eq_true_eq]

theorem Traced.serve {serverNow : Bytes} {exchange : Exchange} (htraced : s.Traced node)
    (hsent : Sent node exchange) (hposted : exchange ∈ s.posts) :
    (s.serve d1 serverNow exchange).Traced node := by
  rcases @System.serve_cases d1 node serverNow s exchange hsent with
    ⟨-, haccepted, hnotNull, hpoints⟩ | ⟨-, haccepted, hpoints⟩
  · have harrived : (s.serve d1 serverNow exchange).arrived =
        s.arrived ++ exchange.samples.filter fun x => Complete x := by
      simp [arrived, haccepted]
    refine ⟨?_, fun x hx => ?_, fun e he => ?_⟩
    · rw [hpoints, harrived, List.map_append, Keyed.insertAll_append, ← htraced.rows]
    · rw [harrived, List.mem_append] at hx
      rcases hx with hx | hx
      · exact htraced.notNull x hx
      · obtain ⟨hmem, hcomplete⟩ := List.mem_filter.mp hx
        exact hnotNull x hmem (of_decide_eq_true hcomplete)
    · rw [haccepted] at he
      rcases List.mem_append.mp he with he | he
      · exact htraced.posted e he
      · exact List.mem_singleton.mp he ▸ hposted
  · have harrived : (s.serve d1 serverNow exchange).arrived = s.arrived := by
      simp [arrived, haccepted]
    exact ⟨by rw [hpoints, harrived, htraced.rows], fun x hx => htraced.notNull x (harrived ▸ hx),
      fun e he => htraced.posted e (haccepted ▸ he)⟩

theorem Traced.deliver {runtime : TelemetryRuntime} {taken : List StoredSample}
    {posted : Option Exchange} (htraced : s.Traced node)
    (hsent : ∀ exchange ∈ posted, Sent node exchange) :
    ({ s with taken := taken, runtime := runtime }.deliver d1 readings fate posted).Traced
      node := by
  cases posted with
  | none => exact ⟨htraced.rows, htraced.notNull, htraced.posted⟩
  | some exchange =>
      have hposted : Traced node
          { s with taken := taken, runtime := runtime, posts := s.posts ++ [exchange] } :=
        ⟨htraced.rows, htraced.notNull, fun e he => List.mem_append_left _ (htraced.posted e he)⟩
      rw [System.deliver]
      split
      · exact hposted.serve (hsent exchange rfl)
          (List.mem_append_right _ (List.mem_singleton_self _))
      · exact hposted

theorem Traced.effect (hready : s.Ready node) (htraced : s.Traced node)
    (heffect : Effect d1 s t) : t.Traced node := by
  cases heffect with
  | polled _ => exact ⟨htraced.rows, htraced.notNull, htraced.posted⟩
  | flushed hflush => exact htraced.deliver (flush_sent hready hflush)
  | flushThrew _ => exact ⟨htraced.rows, htraced.notNull, htraced.posted⟩
  | retried hretry => exact htraced.deliver (retry_sent hready hretry)
  | retryThrew => exact ⟨htraced.rows, htraced.notNull, htraced.posted⟩
  | served hposted => exact htraced.serve (hready.sent _ hposted) hposted

theorem Steps.traced {actions : List Action} (hrun : Steps d1 s actions t)
    (hready : s.Ready node) (htraced : s.Traced node) : t.Traced node := by
  have hinvariant : t.Ready node ∧ t.Traced node := by
    refine Transition.Run.invariant (Q := fun _ => True)
      (P := fun s => s.Ready node ∧ s.Traced node) ?_ hrun (fun _ _ => trivial)
      ⟨hready, htraced⟩
    rintro s action t - ⟨hready, htraced⟩ hstep
    have heffect := effect_of_step hstep
    exact ⟨hready.effect heffect, htraced.effect hready heffect⟩
  exact hinvariant.2

/-- The row under the key of a sample that has arrived is the point of the first one that
arrived under the key. -/
theorem Traced.exists_first (htraced : s.Traced node) (hx : x ∈ s.arrived) :
    ∃ y, s.arrived.find? (fun y => wireKey node y = wireKey node x) = some y ∧
      wirePoint node y ∈ s.database.telemetryPoints.rows ∧
      wireKey node y = wireKey node x ∧ (wirePoint node y).value = .number y.value := by
  obtain ⟨y, hfirst⟩ : ∃ y, s.arrived.find? (fun y => wireKey node y = wireKey node x) = some y :=
    Option.isSome_iff_exists.mp (List.find?_isSome.mpr ⟨x, hx, decide_eq_true rfl⟩)
  have hkey : wireKey node y = wireKey node x := by simpa using List.find?_some hfirst
  have hrow : s.database.telemetryPoints.find? (wireKey node x) = some (wirePoint node y) := by
    rw [htraced.rows, Keyed.find?_insertAll, List.find?_map]
    change Option.or none ((s.arrived.find? fun y => wireKey node y = wireKey node x).map _) = _
    rw [hfirst]
    rfl
  have hnotNull := htraced.notNull y (List.mem_of_find?_eq_some hfirst)
  exact ⟨y, hfirst, List.mem_of_find?_eq_some hrow, hkey, wireValue_eq_number hnotNull.2.2.2.1⟩

theorem Traced.origin (htraced : s.Traced node) {p : TelemetryPoint}
    (hp : p ∈ s.database.telemetryPoints.rows) :
    ∃ e ∈ s.posts, ∃ x ∈ e.samples, Complete x ∧ p = wirePoint node x := by
  rw [htraced.rows] at hp
  rcases Keyed.mem_insertAll hp with hp | hp
  · cases hp
  · obtain ⟨x, hx, rfl⟩ := List.mem_map.mp hp
    obtain ⟨⟨e, he, hmem⟩, hcomplete⟩ := mem_arrived.mp hx
    exact ⟨e, htraced.posted e he, x, hmem, hcomplete, rfl⟩

theorem Traced.start (runtime : TelemetryRuntime) {database : Database}
    (hempty : database.telemetryPoints.rows = []) :
    (System.start runtime database).Traced node :=
  ⟨Keyed.eq_of_rows_eq hempty, fun _ hx => (nomatch hx), fun _ he => nomatch he⟩

end System

section Runs

variable {d1 : D1} {conversions : YamlConversions} {load : Bytes → Except Bytes Yaml}
  {file : ConfigFile} {path : Bytes} {config : Config} {input : ConfigureInput}
  {s₀ runtime : TelemetryRuntime} {database : Database} {actions : List Action} {t : System}

/-- Record identity: readings have different keys exactly when they differ in the part of the
channel id that is sent or in the whole second. In every run from an empty table a complete
sample of a POST answered with 202 has a point under its key, which carries the value and the
unit of the first sample that arrived under the key. So they are its own when the samples
that arrived under the key before it, in earlier POSTs or in front of it in its own, have the
same ones, whatever is sent afterwards. -/
theorem points_identify (hload : loadConfig conversions load file path = .ok config)
    (hconfigure : s₀.configure input config = (true, runtime))
    (hempty : database.telemetryPoints.rows = [])
    (hrun : System.Steps d1 (.start runtime database) actions t) :
    (∀ (a b : Sample) (p q : Priority),
      wireKey config.node.id (.fromSample a p) ≠ wireKey config.node.id (.fromSample b q) ↔
        Bytes.cString (a.channelId.take 63) ≠ Bytes.cString (b.channelId.take 63) ∨
          a.timestamp.tdiv 1000000000 ≠ b.timestamp.tdiv 1000000000) ∧
      (∀ x ∈ t.arrived, ∃ y,
        t.arrived.find? (fun y => wireKey config.node.id y = wireKey config.node.id x) = some y ∧
        ∃ p ∈ t.database.telemetryPoints.rows, p.key = wireKey config.node.id x ∧
          p.value = .number y.value ∧ p.unit = .text y.unit.cString) ∧
      ∀ before e after front x back, t.accepted = before ++ e :: after →
        e.samples = front ++ x :: back → Complete x →
        ∃ p ∈ t.database.telemetryPoints.rows, p.key = wireKey config.node.id x ∧
          ((∀ y ∈ before.flatMap Exchange.samples ++ front, Complete y →
            wireKey config.node.id y = wireKey config.node.id x →
              y.value = x.value ∧ y.unit.cString = x.unit.cString) →
            p.value = .number x.value ∧ p.unit = .text x.unit.cString) := by
  have htraced := System.Steps.traced hrun (System.Ready.start database hload hconfigure)
    (.start runtime hempty)
  refine ⟨fun a b p q => ?_, fun x hx => ?_, ?_⟩
  · rw [Ne, wireKey_fromSample_eq_iff, not_and_or]
  · obtain ⟨y, hfirst, hrow, hkey, hvalue⟩ := htraced.exists_first hx
    exact ⟨y, hfirst, _, hrow, hkey, hvalue, rfl⟩
  · intro before e after front x back haccepted hsamples hcomplete
    have hsplit : t.arrived = (before.flatMap Exchange.samples ++ front).filter
        (fun x => Complete x) ++ x :: (back ++ after.flatMap Exchange.samples).filter
          fun x => Complete x := by
      simp [System.arrived, haccepted, hsamples, hcomplete]
    have hx : x ∈ t.arrived := by
      rw [hsplit]
      exact List.mem_append_right _ List.mem_cons_self
    obtain ⟨y, hfirst, hrow, hkey, hvalue⟩ := htraced.exists_first hx
    refine ⟨_, hrow, hkey, fun hagree => ?_⟩
    -- the first sample under the key is the sample itself or one in front of it
    have hbefore : y = x ∨ y ∈ (before.flatMap Exchange.samples ++ front).filter
        fun x => Complete x := by
      rw [hsplit, List.find?_append, Option.or_eq_some_iff] at hfirst
      rcases hfirst with hfirst | ⟨-, hfirst⟩
      · exact .inr (List.mem_of_find?_eq_some hfirst)
      · rw [List.find?_cons, decide_eq_true rfl] at hfirst
        exact .inl (Option.some.inj hfirst).symm
    rcases hbefore with rfl | hmem
    · exact ⟨hvalue, rfl⟩
    · obtain ⟨hmem, hycomplete⟩ := List.mem_filter.mp hmem
      obtain ⟨hsame, hunit⟩ := hagree y hmem (of_decide_eq_true hycomplete) hkey
      exact ⟨hvalue.trans (congrArg _ hsame), congrArg SqlValue.text hunit⟩

/-- Two readings of one channel in the second `1`, with the values 20 and 21. -/
def twoReadings : ReadResult where
  samples :=
    [deploymentSample 1,
      { deploymentSample 1 with value := .finite 21, timestamp := 1500000000, origin := 2 }]
  count_le := by simp

/-- The run that polls readings in the second `1` and flushes them. -/
def pollAndFlush (result : ReadResult) : List Action :=
  [.poll { deploymentTick 1 none 0 0 with reads := fun _ => result },
    .flush ⟨2000000000, 2000000000, 2000000000, Bytes.ascii "now"⟩ .delivered]

/-- A reading that is flushed and accepted has its point. -/
theorem points_identify_one_reading :
    ∃ t, System.Steps D1.plain (.start (deployed "1" "remote") .empty)
        (pollAndFlush ⟨[deploymentSample 1], by simp⟩) t ∧
      ∃ e ∈ t.accepted, ∃ x ∈ e.samples, ∃ p ∈ t.database.telemetryPoints.rows,
        p.key = wireKey (deploymentConfig "1" "remote").node.id x ∧
          p.value = .number x.value ∧ p.unit = .text x.unit.cString := by
  obtain ⟨t, hrun, hcheck⟩ := System.exists_steps D1.plain
    (.start (deployed "1" "remote") .empty) (pollAndFlush ⟨[deploymentSample 1], by simp⟩)
    (fun t => t.accepted.map (fun e => e.samples.map fun x => decide (Complete x)) = [[true]])
    (by decide +kernel)
  obtain ⟨e, haccepted, hsamples⟩ := List.map_eq_singleton_iff.mp (of_decide_eq_true hcheck)
  obtain ⟨x, hx, hcomplete⟩ := List.map_eq_singleton_iff.mp hsamples
  obtain ⟨p, hp, hkey, hagree⟩ := (points_identify deploymentResult_one_remote
    configure_one_remote rfl hrun).2.2 [] e [] [] x [] haccepted hx (of_decide_eq_true hcomplete)
  exact ⟨t, hrun, e, haccepted ▸ List.mem_singleton_self e, x, hx ▸ List.mem_singleton_self x, p,
    hp, hkey, hagree fun _ hy => nomatch hy⟩

/-- Two readings of one channel in the same second have the same key, and the value of
the second vanishes although its POST is answered with 202. -/
theorem not_points_identify_same_second :
    (¬ ∀ (node : Bytes) (a b : Sample) (p q : Priority),
      a.channelId ≠ [] → a.unit ≠ [] → b.channelId ≠ [] → b.unit ≠ [] →
      a.channelId ≠ b.channelId ∨ a.timestamp ≠ b.timestamp →
        wireKey node (.fromSample a p) ≠ wireKey node (.fromSample b q)) ∧
    ¬ ∀ (d1 : D1) (conversions : YamlConversions) (load : Bytes → Except Bytes Yaml)
      (file : ConfigFile) (path : Bytes) (config : Config) (input : ConfigureInput)
      (s₀ runtime : TelemetryRuntime) (database : Database) (actions : List Action)
      (t : System), loadConfig conversions load file path = .ok config →
      s₀.configure input config = (true, runtime) →
      database.telemetryPoints.rows = [] →
      System.Steps d1 (.start runtime database) actions t →
      ∀ e ∈ t.accepted, ∀ x ∈ e.samples, Complete x →
        ∃ p ∈ t.database.telemetryPoints.rows, p.key = wireKey config.node.id x ∧
          p.value = .number x.value ∧ p.unit = .text x.unit.cString := by
  constructor
  · intro hclaim
    have hkeys := hclaim (Bytes.ascii "edge-1") (deploymentSample 1)
      { deploymentSample 1 with timestamp := 1500000000 } .normal .normal (by decide) (by decide)
      (by decide) (by decide) (.inr (by decide))
    exact hkeys (wireKey_fromSample_eq_iff.mpr ⟨rfl, by decide⟩)
  · intro hclaim
    obtain ⟨t, hrun, hcheck⟩ := System.exists_steps D1.plain
      (.start (deployed "2" "remote") .empty) (pollAndFlush twoReadings)
      (fun t => decide (∃ e ∈ t.accepted, ∃ x ∈ e.samples, Complete x ∧
        ¬ ∃ p ∈ t.database.telemetryPoints.rows,
          p.key = wireKey (deploymentConfig "2" "remote").node.id x ∧
            p.value = .number x.value ∧ p.unit = .text x.unit.cString))
      (by decide +kernel)
    obtain ⟨e, he, x, hx, hcomplete, hlost⟩ := of_decide_eq_true hcheck
    exact hlost (hclaim _ _ _ _ _ _ _ _ _ _ _ _ (deploymentResult_eq (by decide +kernel))
      (configure_deployed (by decide +kernel)) rfl hrun e he x hx hcomplete)

end Runs

end Bossa.Protocol
