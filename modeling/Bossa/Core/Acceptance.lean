import Bossa.Core.Checks

/-!
# The documented configurations

The validation rules of the documentation, stated on the document, and how they compare
with the checks of `load_config`. Most rules are checked as documented. The ids of the
channels and the relation between an interval and a rate are not checked at all, a rate
of zero is refused, and so are strings that are empty or missing.
-/

namespace Bossa.Core

open Telemetry Verdict

def Yaml.isScalar : Yaml → Bool
  | .scalar _ => true
  | _ => false

section Document

variable (conversions : YamlConversions)

def field {α : Type} (convert : Yaml → ConfigLoadResult α) (member : Option Yaml) :
    Option α :=
  member.bind fun m => (convert m).toOption

def channelNodes (root : Yaml) : List Yaml :=
  match root.get? "channels" with
  | some (.sequence nodes) => nodes
  | _ => []

def destinationTexts (node : Yaml) : List Bytes :=
  match sectionMember node "sync" "destinations" with
  | some (.sequence destinations) =>
      destinations.filterMap fun d => (conversions.string d).toOption
  | _ => []

def rate? (node : Yaml) : Option Double := field conversions.double (node.get? "sample_rate_hz")

def interval? (node : Yaml) : Option ℤ :=
  field conversions.int (sectionMember node "sync" "remote_interval_seconds")

def channelIds (root : Yaml) : List Bytes :=
  (channelNodes root).filterMap fun node => field conversions.string (node.get? "id")

/-- A channel of the documented shape: its fields are of their types. -/
structure ChannelShape (node : Yaml) : Prop where
  isMap : node.isMap = true
  id : ∀ m ∈ node.get? "id", m.isScalar = true
  driver : ∀ m ∈ node.get? "driver", m.isScalar = true
  rate : ∀ m ∈ node.get? "sample_rate_hz", (conversions.double m).isOk = true
  parameters : ∀ m ∈ node.get? "parameters", keysConvert conversions m = true
  sync : ∀ m ∈ node.get? "sync", m.isMap = true
  destinations : ∀ m ∈ sectionMember node "sync" "destinations",
    ∃ destinations, m = .sequence destinations ∧
      ∀ d ∈ destinations, (conversions.string d).isOk = true
  interval : ∀ m ∈ sectionMember node "sync" "remote_interval_seconds",
    (conversions.int m).isOk = true
  priority : ∀ m ∈ sectionMember node "sync" "priority", (conversions.string m).isOk = true
  mode : ∀ m ∈ sectionMember node "sync" "mode", (conversions.string m).isOk = true
  threshold : ∀ m ∈ sectionMember node "sync" "on_change_threshold",
    (conversions.double m).isOk = true

/-- A document of the documented shape: the version is known, the node has its id and
its key file, and all fields are of their types. -/
structure DocumentedShape (root : Yaml) : Prop where
  isMap : root.isMap = true
  version : ∃ m, root.get? "config_version" = some m ∧
    conversions.int m = .ok supportedConfigVersion
  node : ∃ m, root.get? "node" = some m ∧ m.isMap = true
  nodeId : ∃ text, sectionMember root "node" "id" = some (.scalar text)
  apiKeyFile : ∃ text, sectionMember root "node" "api_key_file" = some (.scalar text)
  server : ∀ m ∈ root.get? "server", m.isMap = true
  url : ∀ m ∈ sectionMember root "server" "url", m.isScalar = true
  uploadTimeout : ∀ m ∈ sectionMember root "server" "upload_timeout_seconds",
    (conversions.int m).isOk = true
  maxBatchSize : ∀ m ∈ sectionMember root "server" "max_batch_size",
    (conversions.int m).isOk = true
  localStorage : ∀ m ∈ root.get? "local_storage", m.isMap = true
  path : ∀ m ∈ sectionMember root "local_storage" "path", m.isScalar = true
  maxSize : ∀ m ∈ sectionMember root "local_storage" "max_size_megabytes",
    (conversions.int m).isOk = true
  retention : ∀ m ∈ sectionMember root "local_storage" "retention_hours",
    (conversions.int m).isOk = true
  channels : ∀ m ∈ root.get? "channels", ∃ nodes, m = .sequence nodes
  channel : ∀ node ∈ channelNodes root, ChannelShape conversions node

/-- An interval is not shorter than the period of a channel that is polled. -/
def IntervalFits : Double → ℤ → Prop
  | .finite rate, interval => 0 < rate → 1 / rate ≤ interval
  | _, _ => True

/-- The rules on a channel that `load_config` checks as they are documented. -/
structure ChannelRules (node : Yaml) : Prop where
  destinations : ∀ text ∈ destinationTexts conversions node, isDestination text = true
  interval : ∀ v ∈ interval? conversions node, 0 < v
  priority : ∀ text ∈ field conversions.string (sectionMember node "sync" "priority"),
    (parsePriority text).isSome = true
  mode : ∀ text ∈ field conversions.string (sectionMember node "sync" "mode"),
    (parseSyncMode text).isSome = true

/-- The rules that `load_config` checks as they are documented. -/
structure CheckedRules (root : Yaml) : Prop where
  uploadTimeout : ∀ v ∈ field conversions.int
    (sectionMember root "server" "upload_timeout_seconds"), 0 < v
  maxBatchSize : ∀ v ∈ field conversions.int
    (sectionMember root "server" "max_batch_size"), 0 < v
  maxSize : ∀ v ∈ field conversions.int
    (sectionMember root "local_storage" "max_size_megabytes"), 0 < v
  retention : ∀ v ∈ field conversions.int
    (sectionMember root "local_storage" "retention_hours"), 0 < v
  channel : ∀ node ∈ channelNodes root, ChannelRules conversions node

/-- The documented rules on the ids, the rates and the intervals of the channels. -/
structure ChannelListRules (root : Yaml) : Prop where
  ids : (channelIds conversions root).Nodup
  rates : ∀ node ∈ channelNodes root, ∀ rate ∈ rate? conversions node,
    Double.le (.finite 0) rate = true
  intervals : ∀ node ∈ channelNodes root, ∀ rate ∈ rate? conversions node,
    ∀ interval ∈ interval? conversions node, IntervalFits rate interval

/-- The documented validation rules. -/
structure ValidationRules (root : Yaml) : Prop extends
  CheckedRules conversions root, ChannelListRules conversions root

/-- A channel whose strings are given and not empty and whose rate is given and
positive. -/
structure ChannelFilled (node : Yaml) : Prop where
  id : (nonEmptyString (node.get? "id")).isSome = true
  driver : (nonEmptyString (node.get? "driver")).isSome = true
  rate : ∃ rate ∈ rate? conversions node, Double.lt (.finite 0) rate = true

/-- What `load_config` demands beyond the shape and the rules it shares with the
documentation: its strings are not empty, and every channel is polled. -/
structure Filled (root : Yaml) : Prop where
  nodeId : (nonEmptyString (sectionMember root "node" "id")).isSome = true
  apiKeyFile : (nonEmptyString (sectionMember root "node" "api_key_file")).isSome = true
  url : ∀ m ∈ sectionMember root "server" "url", (nonEmptyString (some m)).isSome = true
  path : ∀ m ∈ sectionMember root "local_storage" "path",
    (nonEmptyString (some m)).isSome = true
  channel : ∀ node ∈ channelNodes root, ChannelFilled conversions node

end Document

section Verdicts

variable {conversions : YamlConversions} {α : Type}

theorem isOk_iff {ε : Type} {x : Except ε α} : x.isOk = true ↔ ∃ a, x = .ok a := by
  cases x <;> simp [Except.isOk, Except.toBool]

theorem mem_field_iff {convert : Yaml → ConfigLoadResult α} {member : Option Yaml} {a : α} :
    a ∈ field convert member ↔ ∃ m ∈ member, convert m = .ok a := by
  simp only [field, Option.mem_def, Option.bind_eq_some_iff]
  refine exists_congr fun m => and_congr_right fun _ => ?_
  cases convert m <;> simp [Except.toOption]

theorem optionalVerdict_eq_accepted_iff {verdict : Yaml → Verdict} {member : Option Yaml} :
    optionalVerdict verdict member = .accepted ↔ ∀ m ∈ member, verdict m = .accepted := by
  cases member <;> simp [optionalVerdict]

theorem requiredVerdict_eq_accepted_iff {verdict : Yaml → Verdict} {member : Option Yaml} :
    requiredVerdict verdict member = .accepted ↔ ∃ m ∈ member, verdict m = .accepted := by
  cases member <;> simp [requiredVerdict]

theorem convertVerdict_eq_accepted_iff {convert : Yaml → ConfigLoadResult α} {test : α → Bool}
    {member : Yaml} :
    convertVerdict convert test member = .accepted ↔
      ∃ a, convert member = .ok a ∧ test a = true := by
  unfold convertVerdict
  cases convert member with
  | error e => simp
  | ok a => simp [require_eq_accepted_iff]

theorem optionalVerdict_convert_iff {convert : Yaml → ConfigLoadResult α} {test : α → Bool}
    {member : Option Yaml} (h : ∀ m ∈ member, (convert m).isOk = true) :
    optionalVerdict (convertVerdict convert test) member = .accepted ↔
      ∀ a ∈ field convert member, test a = true := by
  rw [optionalVerdict_eq_accepted_iff]
  constructor
  · intro haccepted a ha
    obtain ⟨m, hm, hconvert⟩ := mem_field_iff.mp ha
    obtain ⟨a', ha', htest⟩ := convertVerdict_eq_accepted_iff.mp (haccepted m hm)
    rw [hconvert] at ha'
    cases ha'
    exact htest
  · intro htest m hm
    obtain ⟨a, ha⟩ := isOk_iff.mp (h m hm)
    exact convertVerdict_eq_accepted_iff.mpr ⟨a, ha, htest a (mem_field_iff.mpr ⟨m, hm, ha⟩)⟩

theorem optionalVerdict_positive_iff {member : Option Yaml}
    (h : ∀ m ∈ member, (conversions.int m).isOk = true) :
    optionalVerdict (positiveVerdict conversions) member = .accepted ↔
      ∀ v ∈ field conversions.int member, 0 < v := by
  rw [positiveVerdict, optionalVerdict_convert_iff h]
  simp only [decide_eq_true_eq]

theorem optionalVerdict_map_iff {member : Option Yaml} :
    optionalVerdict mapVerdict member = .accepted ↔ ∀ m ∈ member, m.isMap = true := by
  simp only [optionalVerdict_eq_accepted_iff, mapVerdict, require_eq_accepted_iff]

theorem destinationVerdicts_accepted_iff {node : Yaml}
    (h : ∀ m ∈ sectionMember node "sync" "destinations",
      ∃ destinations, m = .sequence destinations ∧
        ∀ d ∈ destinations, (conversions.string d).isOk = true) :
    (∀ v ∈ destinationVerdicts conversions (sectionMember node "sync" "destinations"),
        v = .accepted) ↔
      ∀ text ∈ destinationTexts conversions node, isDestination text = true := by
  unfold destinationTexts
  cases hget : sectionMember node "sync" "destinations" with
  | none => simp [destinationVerdicts]
  | some m =>
      obtain ⟨destinations, rfl, hdestinations⟩ := h m hget
      simp only [destinationVerdicts, List.forall_mem_map, List.mem_filterMap,
        convertVerdict_eq_accepted_iff, forall_exists_index, and_imp]
      constructor
      · intro haccepted text d hd htext
        obtain ⟨text', htext', htest⟩ := haccepted d hd
        rw [htext'] at htext
        cases htext
        exact htest
      · intro htexts d hd
        obtain ⟨text, htext⟩ := isOk_iff.mp (hdestinations d hd)
        exact ⟨text, htext, htexts text d hd (by rw [htext]; rfl)⟩

/-- A channel of the documented shape is accepted exactly when it keeps the checked rules
and is filled. -/
theorem channelVerdicts_accepted_iff {node : Yaml} (hshape : ChannelShape conversions node) :
    (∀ v ∈ channelVerdicts conversions node, v = .accepted) ↔
      ChannelRules conversions node ∧ ChannelFilled conversions node := by
  have hrate : requiredVerdict
        (convertVerdict conversions.double fun rate => Double.lt (.finite 0) rate)
        (node.get? "sample_rate_hz") = .accepted ↔
      ∃ rate ∈ rate? conversions node, Double.lt (.finite 0) rate = true := by
    simp only [requiredVerdict_eq_accepted_iff, convertVerdict_eq_accepted_iff, rate?,
      mem_field_iff]
    constructor
    · rintro ⟨m, hm, rate, hconvert, hpos⟩
      exact ⟨rate, ⟨m, hm, hconvert⟩, hpos⟩
    · rintro ⟨rate, ⟨m, hm, hconvert⟩, hpos⟩
      exact ⟨m, hm, rate, hconvert, hpos⟩
  have hparameters : optionalVerdict (parametersVerdict conversions)
      (node.get? "parameters") = .accepted := by
    refine optionalVerdict_eq_accepted_iff.mpr fun m hm => ?_
    rw [parametersVerdict, if_pos (hshape.parameters m hm)]
  have hthreshold : optionalVerdict (convertVerdict conversions.double fun _ => true)
      (sectionMember node "sync" "on_change_threshold") = .accepted :=
    (optionalVerdict_convert_iff hshape.threshold).mpr fun _ _ => rfl
  simp only [channelVerdicts, syncVerdicts, List.forall_mem_append, List.forall_mem_cons,
    List.not_mem_nil, false_imp_iff, implies_true, and_true, mapVerdict,
    require_eq_accepted_iff, hshape.isMap, true_and, requiredVerdict_textVerdict, hrate,
    hparameters, hthreshold, optionalVerdict_map_iff, optionalVerdict_positive_iff
    hshape.interval, optionalVerdict_convert_iff hshape.priority,
    optionalVerdict_convert_iff hshape.mode,
    destinationVerdicts_accepted_iff hshape.destinations]
  constructor
  · rintro ⟨⟨hid, hdriver, hpos, -⟩, hdestinations, hinterval, hpriority, hmode⟩
    exact ⟨⟨hdestinations, hinterval, hpriority, hmode⟩, ⟨hid, hdriver, hpos⟩⟩
  · rintro ⟨hrules, hfilled⟩
    exact ⟨⟨hfilled.id, hfilled.driver, hfilled.rate, hshape.sync⟩, hrules.destinations,
      hrules.interval, hrules.priority, hrules.mode⟩

theorem channelsVerdicts_accepted_iff {root : Yaml}
    (hchannels : ∀ m ∈ root.get? "channels", ∃ nodes, m = .sequence nodes)
    (hshape : ∀ node ∈ channelNodes root, ChannelShape conversions node) :
    (∀ v ∈ channelsVerdicts conversions root, v = .accepted) ↔
      ∀ node ∈ channelNodes root,
        ChannelRules conversions node ∧ ChannelFilled conversions node := by
  unfold channelNodes at hshape ⊢
  unfold channelsVerdicts
  cases hget : root.get? "channels" with
  | none => simp
  | some m =>
      obtain ⟨nodes, rfl⟩ := hchannels m hget
      rw [hget] at hshape
      simp only [List.mem_flatMap, forall_exists_index, and_imp]
      constructor
      · intro haccepted node hnode
        exact (channelVerdicts_accepted_iff (hshape node hnode)).mp fun v hv =>
          haccepted v node hnode hv
      · intro hrules v node hnode hv
        exact (channelVerdicts_accepted_iff (hshape node hnode)).mpr (hrules node hnode) v hv

/-- A document of the documented shape is accepted exactly when it keeps the checked
rules and is filled. -/
theorem verdicts_accepted_iff {root : Yaml} (hshape : DocumentedShape conversions root) :
    first (verdicts conversions root) = .accepted ↔
      CheckedRules conversions root ∧ Filled conversions root := by
  have hversion : requiredVerdict
      (convertVerdict conversions.int fun v => v = supportedConfigVersion)
      (root.get? "config_version") = .accepted := by
    obtain ⟨m, hm, hconvert⟩ := hshape.version
    exact requiredVerdict_eq_accepted_iff.mpr
      ⟨m, hm, convertVerdict_eq_accepted_iff.mpr ⟨_, hconvert, by simp⟩⟩
  have hnode : requiredVerdict mapVerdict (root.get? "node") = .accepted := by
    obtain ⟨m, hm, hmap⟩ := hshape.node
    exact requiredVerdict_eq_accepted_iff.mpr ⟨m, hm, require_eq_accepted_iff.mpr hmap⟩
  rw [first_eq_accepted_iff]
  simp only [verdicts, serverVerdicts, storageVerdicts, List.forall_mem_append,
    List.forall_mem_cons, List.not_mem_nil, false_imp_iff, implies_true, and_true, mapVerdict,
    require_eq_accepted_iff, hshape.isMap, true_and, hversion, requiredVerdict_textVerdict,
    optionalVerdict_positive_iff hshape.uploadTimeout,
    optionalVerdict_positive_iff hshape.maxBatchSize,
    optionalVerdict_positive_iff hshape.maxSize,
    optionalVerdict_positive_iff hshape.retention,
    channelsVerdicts_accepted_iff hshape.channels hshape.channel]
  constructor
  · rintro ⟨⟨-, hnodeId, hkeyFile⟩, ⟨-, hurl, htimeout, hbatch⟩,
      ⟨-, hpath, hsize, hretention⟩, hchannels⟩
    refine ⟨⟨htimeout, hbatch, hsize, hretention, fun node h => (hchannels node h).1⟩,
      ⟨hnodeId, hkeyFile, fun m hm => ?_, fun m hm => ?_, fun node h => (hchannels node h).2⟩⟩
    · exact require_eq_accepted_iff.mp (optionalVerdict_eq_accepted_iff.mp hurl m hm)
    · exact require_eq_accepted_iff.mp (optionalVerdict_eq_accepted_iff.mp hpath m hm)
  · rintro ⟨hrules, hfilled⟩
    have htext : ∀ member : Option Yaml,
        (∀ m ∈ member, (nonEmptyString (some m)).isSome = true) →
          optionalVerdict textVerdict member = .accepted := fun member h =>
      optionalVerdict_eq_accepted_iff.mpr fun m hm => require_eq_accepted_iff.mpr (h m hm)
    exact ⟨⟨hnode, hfilled.nodeId, hfilled.apiKeyFile⟩,
      ⟨optionalVerdict_map_iff.mpr hshape.server, htext _ hfilled.url, hrules.uploadTimeout,
        hrules.maxBatchSize⟩,
      ⟨optionalVerdict_map_iff.mpr hshape.localStorage, htext _ hfilled.path, hrules.maxSize,
        hrules.retention⟩,
      fun node h => ⟨hrules.channel node h, hfilled.channel node h⟩⟩

variable {load : Bytes → Except Bytes Yaml} {file : ConfigFile} {path : Bytes} {root : Yaml}

/-- `load_config` accepts exactly the documented configurations among the documents that
break a checked rule, those that are filled and keep the rules on the list of channels,
and those that neither are nor do. -/
theorem loadConfig_documented_iff (hpath : path ≠ []) (hfile : file.Parses load root)
    (hshape : DocumentedShape conversions root) :
    ((∃ config, loadConfig conversions load file path = .ok config) ↔
        ValidationRules conversions root) ↔
      ¬ CheckedRules conversions root ∨
        (Filled conversions root ∧ ChannelListRules conversions root) ∨
        (¬ Filled conversions root ∧ ¬ ChannelListRules conversions root) := by
  have haccepted : (∃ config, loadConfig conversions load file path = .ok config) ↔
      CheckedRules conversions root ∧ Filled conversions root := by
    rw [loadConfig_of_parses hpath hfile, (parseConfig_outcome root).exists_ok_iff,
      verdicts_accepted_iff hshape]
  have hrules : ValidationRules conversions root ↔
      CheckedRules conversions root ∧ ChannelListRules conversions root :=
    ⟨fun h => ⟨h.toCheckedRules, h.toChannelListRules⟩, fun h => ⟨h.1, h.2⟩⟩
  rw [haccepted, hrules]
  by_cases hchecked : CheckedRules conversions root
  · by_cases hfilled : Filled conversions root
    · simp [hchecked, hfilled]
    · simp [hchecked, hfilled]
  · simp [hchecked]

end Verdicts

section Example

def scalarText (text : String) : Yaml := .scalar (Bytes.ascii text)

def unitConversions : YamlConversions where
  asBool := fun _ => none
  asInt := fun text => if text = Bytes.ascii "1" then some 1 else none
  asDouble := fun text => if text = Bytes.ascii "1" then some (.finite 1) else none
  nullString := none

def unitChannel : Yaml :=
  .map
    [(scalarText "id", scalarText "t"), (scalarText "driver", scalarText "sim"),
      (scalarText "sample_rate_hz", scalarText "1")]

def unitDocument (channels : List Yaml) : Yaml :=
  .map
    [(scalarText "config_version", scalarText "1"),
      (scalarText "node", .map
        [(scalarText "id", scalarText "n"), (scalarText "api_key_file", scalarText "k")]),
      (scalarText "channels", .sequence channels)]

/-- The text of a document with channels of that kind. -/
def unitText (channels : ℕ) : String :=
  "config_version: 1\nnode:\n  id: n\n  api_key_file: k\nchannels:\n" ++
    String.join (List.replicate channels "  - id: t\n    driver: sim\n    sample_rate_hz: 1\n")

def readableFile (text : String) : ConfigFile where
  «exists» := some true
  size := some (Bytes.ascii text).length
  opens := true
  text := some (Bytes.ascii text)

theorem readableFile_parses {text : String} (root : Yaml)
    (h : (Bytes.ascii text).length ≤ maxConfigBytes) :
    (readableFile text).Parses (fun _ => .ok root) root where
  found := rfl
  size := ⟨_, h, rfl⟩
  opens := rfl
  text := ⟨_, rfl, rfl⟩

theorem unitChannel_shape : ChannelShape unitConversions unitChannel where
  isMap := rfl
  id := by decide
  driver := by decide
  rate := by decide
  parameters := by decide
  sync := by decide
  destinations := fun m hm => by cases hm
  interval := by decide
  priority := by decide
  mode := by decide
  threshold := by decide

theorem unitDocument_shape {channels : List Yaml}
    (h : ∀ node ∈ channels, ChannelShape unitConversions node) :
    DocumentedShape unitConversions (unitDocument channels) where
  isMap := rfl
  version := ⟨_, rfl, rfl⟩
  node := ⟨_, rfl, rfl⟩
  nodeId := ⟨_, rfl⟩
  apiKeyFile := ⟨_, rfl⟩
  server := fun m hm => by cases hm
  url := fun m hm => by cases hm
  uploadTimeout := fun m hm => by cases hm
  maxBatchSize := fun m hm => by cases hm
  localStorage := fun m hm => by cases hm
  path := fun m hm => by cases hm
  maxSize := fun m hm => by cases hm
  retention := fun m hm => by cases hm
  channels := fun m hm => by
    cases hm
    exact ⟨channels, rfl⟩
  channel := h

theorem unitDocument_filled {channels : List Yaml}
    (h : ∀ node ∈ channels, node = unitChannel) :
    Filled unitConversions (unitDocument channels) where
  nodeId := rfl
  apiKeyFile := rfl
  url := fun m hm => by cases hm
  path := fun m hm => by cases hm
  channel := fun node hnode => by
    rw [h node hnode]
    exact ⟨rfl, rfl, .finite 1, rfl, by decide +kernel⟩

/-- A document with one channel is accepted, and keeps the documented rules. -/
theorem loadConfig_documented_iff_one_channel :
    (∃ config, loadConfig unitConversions (fun _ => .ok (unitDocument [unitChannel]))
        (readableFile (unitText 1)) (Bytes.ascii "config.yaml") = .ok config) ∧
      ValidationRules unitConversions (unitDocument [unitChannel]) := by
  have hchannel : ∀ node ∈ [unitChannel], node = unitChannel := fun _ => List.mem_singleton.mp
  have hfile := @readableFile_parses (unitText 1) (unitDocument [unitChannel])
    (by decide +kernel)
  have haccepted : ∃ config, loadConfig unitConversions
      (fun _ => .ok (unitDocument [unitChannel])) (readableFile (unitText 1))
      (Bytes.ascii "config.yaml") = .ok config := by
    rw [loadConfig_of_parses (by decide) hfile, (parseConfig_outcome _).exists_ok_iff]
    decide +kernel
  refine ⟨haccepted, ((loadConfig_documented_iff (by decide) hfile
    (unitDocument_shape fun node hnode => hchannel node hnode ▸ unitChannel_shape)).mpr
    (.inr (.inl ⟨unitDocument_filled hchannel, ?_, ?_, ?_⟩))).mp haccepted⟩
  · decide
  · intro node hnode rate hrate
    rw [hchannel node hnode] at hrate
    cases hrate
    decide +kernel
  · intro node hnode rate _ interval hinterval
    rw [hchannel node hnode] at hinterval
    cases hinterval

/-- A document with two channels of the same id is accepted. -/
theorem not_loadConfig_documented_duplicate_id :
    ¬ ∀ (conversions : YamlConversions) (load : Bytes → Except Bytes Yaml)
      (file : ConfigFile) (path : Bytes) (root : Yaml), path ≠ [] → file.Parses load root →
      DocumentedShape conversions root →
        ((∃ config, loadConfig conversions load file path = .ok config) ↔
          ValidationRules conversions root) := by
  intro hclaim
  have hchannel : ∀ node ∈ [unitChannel, unitChannel], node = unitChannel := by simp
  have hiff := hclaim unitConversions
    (fun _ => .ok (unitDocument [unitChannel, unitChannel])) (readableFile (unitText 2))
    (Bytes.ascii "config.yaml") _ (by decide) (readableFile_parses _ (by decide +kernel))
    (unitDocument_shape fun node hnode => hchannel node hnode ▸ unitChannel_shape)
  have haccepted : first (verdicts unitConversions (unitDocument [unitChannel, unitChannel])) =
      .accepted := by decide +kernel
  have hrules := hiff.mp (by
    rw [loadConfig_of_parses (by decide) (readableFile_parses _ (by decide +kernel)),
      (parseConfig_outcome _).exists_ok_iff]
    exact haccepted)
  exact absurd hrules.ids (by decide)

end Example

end Bossa.Core
