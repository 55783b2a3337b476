import Bossa.Core.Abort
import Bossa.Core.Config

/-!
# Loading a configuration

`src/core/config.cpp`. A YAML document is a finite tree. The conversions of the
YAML library are parameters, functions that may fail on a text; where the source
converts a node and the conversion fails, the library throws, and no handler of
`load_config` is in reach.
-/

namespace Bossa.Core

open Telemetry

/-- A YAML node. -/
inductive Yaml where
  | null
  | scalar (text : Bytes)
  | sequence (items : List Yaml)
  | map (entries : List (Yaml × Yaml))

namespace Yaml

def isMap : Yaml → Bool
  | map _ => true
  | _ => false

/-- `node[key]`: the value of the first entry with that key. -/
def get? (key : String) : Yaml → Option Yaml
  | map entries =>
      (entries.find? fun entry =>
        match entry.1 with
        | scalar text => text = Bytes.ascii key
        | _ => false).map Prod.snd
  | _ => none

end Yaml

/-- The conversions `node.as<T>()` of the YAML library: of the texts of scalars,
and of a null node to a string. -/
structure YamlConversions where
  asBool : Bytes → Option Bool
  asInt : Bytes → Option ℤ
  asDouble : Bytes → Option Double
  nullString : Option Bytes

/-- Why no configuration is returned: a `ConfigLoadResult::fail` with its message,
or an exception that leaves `load_config`. -/
inductive LoadFailure where
  | fail (message : Bytes)
  | escape
  deriving DecidableEq, Repr

/-- A `ConfigLoadResult`, or the result of a part of `load_config`. -/
abbrev ConfigLoadResult := Except LoadFailure

namespace ConfigLoadResult

variable {α : Type*}

/-- `ConfigLoadResult::fail`. -/
def fail (message : Bytes) : ConfigLoadResult α := .error (.fail message)

/-- The value of a conversion, which throws when there is none. -/
def converted : Option α → ConfigLoadResult α
  | some a => .ok a
  | none => .error .escape

end ConfigLoadResult

open ConfigLoadResult

namespace YamlConversions

variable (conversions : YamlConversions)

/-- `node.as<std::string>()`. -/
def string : Yaml → ConfigLoadResult Bytes
  | .scalar text => .ok text
  | .null => converted conversions.nullString
  | _ => .error .escape

/-- `node.as<int>()`. -/
def int : Yaml → ConfigLoadResult ℤ
  | .scalar text => converted (conversions.asInt text)
  | _ => .error .escape

/-- `node.as<double>()`. -/
def double : Yaml → ConfigLoadResult Double
  | .scalar text => converted (conversions.asDouble text)
  | _ => .error .escape

end YamlConversions

def supportedConfigVersion : ℤ := 1

def maxConfigBytes : ℕ := 1024 * 1024

/-- `is_non_empty_string`, with the string. -/
def nonEmptyString : Option Yaml → Option Bytes
  | some (.scalar text) => if text = [] then none else some text
  | _ => none

/-- `parse_priority`. -/
def parsePriority (text : Bytes) : Option Priority :=
  if text = Bytes.ascii "low" then some .low
  else if text = Bytes.ascii "normal" then some .normal
  else if text = Bytes.ascii "critical" then some .critical
  else none

/-- `parse_sync_mode`. -/
def parseSyncMode (text : Bytes) : Option SyncMode :=
  if text = Bytes.ascii "batch" then some .batch
  else if text = Bytes.ascii "realtime" then some .realtime
  else if text = Bytes.ascii "on_change" then some .onChange
  else none

/-- `object[name] = value` on the members of an object, in the order of names. -/
def setMember (name : Bytes) (value : Json) : List (Bytes × Json) → List (Bytes × Json)
  | [] => [(name, value)]
  | m :: members =>
      if name < m.1 then (name, value) :: m :: members
      else if name = m.1 then (name, value) :: members
      else m :: setMember name value members

section Parse

variable (conversions : YamlConversions)

/-- The JSON value of a scalar: the first conversion that succeeds. -/
def scalarToJson (text : Bytes) : Json :=
  match conversions.asBool text with
  | some b => .bool b
  | none =>
      match conversions.asInt text with
      | some i => .num (.finite i)
      | none =>
          match conversions.asDouble text with
          | some v => .num v
          | none => .str text

mutual

/-- `yaml_to_json`. -/
def yamlToJson : Yaml → ConfigLoadResult Json
  | .null => .ok .null
  | .scalar text => .ok (scalarToJson conversions text)
  | .sequence items => do
      let items ← itemsToJson items
      pure (.arr items)
  | .map entries => do
      let members ← entriesToJson entries []
      pure (.obj members)

def itemsToJson : List Yaml → ConfigLoadResult (List Json)
  | [] => .ok []
  | item :: items => do
      let value ← yamlToJson item
      let values ← itemsToJson items
      pure (value :: values)

def entriesToJson :
    List (Yaml × Yaml) → List (Bytes × Json) → ConfigLoadResult (List (Bytes × Json))
  | [], members => .ok members
  | (key, item) :: entries, members => do
      let name ← conversions.string key
      let value ← yamlToJson item
      entriesToJson entries (setMember name value members)

end

/-- An optional integer member that must be positive. -/
def parsePositive (node : Yaml) (key : String) (default : ℤ) (message : Bytes) :
    ConfigLoadResult ℤ :=
  match node.get? key with
  | none => pure default
  | some member => do
      let value ← conversions.int member
      if value ≤ 0 then fail message else pure value

/-- An optional string member that must not be empty. -/
def parseNonEmpty (node : Yaml) (key : String) (default message : Bytes) :
    ConfigLoadResult Bytes :=
  match node.get? key with
  | none => pure default
  | some member =>
      match nonEmptyString member with
      | none => fail message
      | some text => pure text

/-- `parse_server`. -/
def parseServer (root : Yaml) (config : Config) : ConfigLoadResult Config :=
  match root.get? "server" with
  | none => pure config
  | some server =>
      if !server.isMap then fail (Bytes.ascii "server must be a mapping")
      else do
        let url ← parseNonEmpty server "url" config.server.url
          (Bytes.ascii "server.url must be a non-empty string")
        let timeout ← parsePositive conversions server "upload_timeout_seconds"
          config.server.uploadTimeoutSeconds
          (Bytes.ascii "server.upload_timeout_seconds must be > 0")
        let maxBatchSize ← parsePositive conversions server "max_batch_size"
          config.server.maxBatchSize (Bytes.ascii "server.max_batch_size must be > 0")
        pure { config with server := ⟨url, timeout, maxBatchSize⟩ }

/-- `parse_local_storage`. -/
def parseLocalStorage (root : Yaml) (config : Config) : ConfigLoadResult Config :=
  match root.get? "local_storage" with
  | none => pure config
  | some storage =>
      if !storage.isMap then fail (Bytes.ascii "local_storage must be a mapping")
      else do
        let path ← parseNonEmpty storage "path" config.localStorage.path
          (Bytes.ascii "local_storage.path must be a non-empty string")
        let maxSize ← parsePositive conversions storage "max_size_megabytes"
          config.localStorage.maxSizeMegabytes
          (Bytes.ascii "local_storage.max_size_megabytes must be > 0")
        let retention ← parsePositive conversions storage "retention_hours"
          config.localStorage.retentionHours
          (Bytes.ascii "local_storage.retention_hours must be > 0")
        pure { config with localStorage := ⟨path, maxSize, retention⟩ }

def channelMessage (index : ℕ) (suffix : String) : Bytes :=
  Bytes.ascii "channels[" ++ Bytes.decimal index ++ Bytes.ascii suffix

/-- The loop over `sync.destinations`; it sets the flags for the local and the
remote destination. -/
def parseDestinations (index : ℕ) :
    List Yaml → Bool × Bool → ConfigLoadResult (Bool × Bool)
  | [], flags => pure flags
  | destination :: destinations, (isLocal, isRemote) => do
      let value ← conversions.string destination
      if value = Bytes.ascii "local" then
        parseDestinations index destinations (true, isRemote)
      else if value = Bytes.ascii "remote" then
        parseDestinations index destinations (isLocal, true)
      else fail (channelMessage index "].sync.destinations contains unknown value")

/-- `sync.destinations`; without it the default flags stand. -/
def parseDestinationFlags (index : ℕ) (sync : Yaml) (default : Bool × Bool) :
    ConfigLoadResult (Bool × Bool) :=
  match sync.get? "destinations" with
  | none => pure default
  | some (.sequence destinations) =>
      parseDestinations conversions index destinations (false, false)
  | some _ => fail (channelMessage index "].sync.destinations must be a sequence")

def parseNamed {α : Type} (parse : Bytes → Option α) (node : Yaml) (key : String)
    (default : α) (message : Bytes) : ConfigLoadResult α :=
  match node.get? key with
  | none => pure default
  | some member => do
      let text ← conversions.string member
      match parse text with
      | none => fail message
      | some value => pure value

/-- `sync.on_change_threshold`. -/
def parseThreshold (sync : Yaml) (default : Double) : ConfigLoadResult Double :=
  match sync.get? "on_change_threshold" with
  | none => pure default
  | some member => conversions.double member

/-- The part of `parse_channels` that reads the members of `sync`. -/
def parseSync (index : ℕ) (sync : Yaml) (config : ChannelSyncConfig) :
    ConfigLoadResult ChannelSyncConfig := do
  let flags ← parseDestinationFlags conversions index sync
    (config.destinationLocal, config.destinationRemote)
  let remoteInterval ← parsePositive conversions sync "remote_interval_seconds"
    config.remoteIntervalSeconds
    (channelMessage index "].sync.remote_interval_seconds must be > 0")
  let priority ← parseNamed conversions parsePriority sync "priority" config.priority
    (channelMessage index "].sync.priority must be low|normal|critical")
  let mode ← parseNamed conversions parseSyncMode sync "mode" config.mode
    (channelMessage index "].sync.mode must be batch|realtime|on_change")
  let threshold ← parseThreshold conversions sync config.onChangeThreshold
  pure
    { destinationLocal := flags.1
      destinationRemote := flags.2
      remoteIntervalSeconds := remoteInterval
      priority := priority
      mode := mode
      onChangeThreshold := threshold }

/-- `sync` of a channel. -/
def parseChannelSync (index : ℕ) (node : Yaml) : ConfigLoadResult ChannelSyncConfig :=
  match node.get? "sync" with
  | none => pure {}
  | some (.map entries) => parseSync conversions index (.map entries) {}
  | some _ => fail (channelMessage index "].sync must be a mapping")

/-- `parameters` of a channel. -/
def parseParameters (node : Yaml) : ConfigLoadResult Json :=
  match node.get? "parameters" with
  | none => pure (.obj [])
  | some member => yamlToJson conversions member

/-- The body of the loop of `parse_channels`. -/
def parseChannel (index : ℕ) (node : Yaml) : ConfigLoadResult ChannelConfig :=
  if !node.isMap then fail (channelMessage index "] must be a mapping")
  else
    match nonEmptyString (node.get? "id") with
    | none => fail (channelMessage index "].id must be a non-empty string")
    | some id =>
        match nonEmptyString (node.get? "driver") with
        | none => fail (channelMessage index "].driver must be a non-empty string")
        | some driver =>
            match node.get? "sample_rate_hz" with
            | none => fail (channelMessage index "].sample_rate_hz is required")
            | some rate => do
                let sampleRateHz ← conversions.double rate
                if !(Double.lt (.finite 0) sampleRateHz) then
                  fail (channelMessage index "].sample_rate_hz must be > 0")
                else do
                  let parameters ← parseParameters conversions node
                  let sync ← parseChannelSync conversions index node
                  pure ⟨id, driver, parameters, sampleRateHz, sync⟩

/-- The loop of `parse_channels` from an index on. -/
def parseChannelList (index : ℕ) : List Yaml → ConfigLoadResult (List ChannelConfig)
  | [] => pure []
  | node :: nodes => do
      let channel ← parseChannel conversions index node
      let channels ← parseChannelList (index + 1) nodes
      pure (channel :: channels)

/-- `parse_channels`. -/
def parseChannels (root : Yaml) (config : Config) : ConfigLoadResult Config :=
  match root.get? "channels" with
  | none => pure config
  | some (.sequence nodes) => do
      let channels ← parseChannelList conversions 0 nodes
      pure { config with channels := config.channels ++ channels }
  | some _ => fail (Bytes.ascii "channels must be a sequence")

/-- The part of `load_config` behind the parser of the library. -/
def parseConfig (root : Yaml) : ConfigLoadResult Config :=
  if !root.isMap then fail (Bytes.ascii "config root must be a mapping")
  else
    match root.get? "config_version" with
    | none => fail (Bytes.ascii "missing required field: config_version")
    | some version => do
        let configVersion ← conversions.int version
        if configVersion ≠ supportedConfigVersion then
          fail (Bytes.ascii "unsupported config_version: " ++ Bytes.decimalInt configVersion)
        else
          match root.get? "node" with
          | some (.map entries) =>
              match nonEmptyString ((Yaml.map entries).get? "id") with
              | none => fail (Bytes.ascii "node.id must be a non-empty string")
              | some id =>
                  match nonEmptyString ((Yaml.map entries).get? "api_key_file") with
                  | none =>
                      fail (Bytes.ascii "node.api_key_file must be a non-empty string")
                  | some apiKeyFile => do
                      let config ← parseServer conversions root
                        { configVersion := configVersion, node := ⟨id, apiKeyFile⟩ }
                      let config ← parseLocalStorage conversions root config
                      parseChannels conversions root config
          | _ => fail (Bytes.ascii "missing required field: node")

end Parse

/-- What `load_config` finds at its path: whether the file exists, a question that
throws when it cannot be answered, its size, whether it can be opened and what
it contains. -/
structure ConfigFile where
  «exists» : Option Bool
  size : Option ℕ
  opens : Bool
  text : Option Bytes

/-- `load_config`. The parser of the YAML library is a parameter: it returns a
document or the message of its exception. -/
def loadConfig (conversions : YamlConversions) (load : Bytes → Except Bytes Yaml)
    (file : ConfigFile) (path : Bytes) : ConfigLoadResult Config :=
  if path = [] then fail (Bytes.ascii "config path is empty")
  else do
    let found ← converted file.exists
    if !found then fail (Bytes.ascii "config file not found: " ++ path)
    else
      match file.size with
      | none => fail (Bytes.ascii "cannot read config file size: " ++ path)
      | some size =>
          if size > maxConfigBytes then
            fail (Bytes.ascii "config file exceeds size limit: " ++ path)
          else if !file.opens then fail (Bytes.ascii "cannot open config file: " ++ path)
          else
            match file.text with
            | none => fail (Bytes.ascii "error reading config file: " ++ path)
            | some text =>
                match load text with
                | .error message => fail (Bytes.ascii "YAML parse error: " ++ message)
                | .ok root => parseConfig conversions root

/-- What the checks of a channel guarantee. -/
structure ChannelConfig.Valid (c : ChannelConfig) : Prop where
  id_ne_nil : c.id ≠ []
  driver_ne_nil : c.driver ≠ []
  sampleRateHz_pos : Double.lt (.finite 0) c.sampleRateHz = true
  remoteInterval_pos : 0 < c.sync.remoteIntervalSeconds

/-- What the checks of `load_config` guarantee. -/
structure Config.Valid (c : Config) : Prop where
  nodeId_ne_nil : c.node.id ≠ []
  uploadTimeout_pos : 0 < c.server.uploadTimeoutSeconds
  maxBatchSize_pos : 0 < c.server.maxBatchSize
  path_ne_nil : c.localStorage.path ≠ []
  maxSize_pos : 0 < c.localStorage.maxSizeMegabytes
  retention_pos : 0 < c.localStorage.retentionHours
  channels : ∀ channel ∈ c.channels, channel.Valid

section Valid

variable {conversions : YamlConversions}

theorem nonEmptyString_ne_nil {node : Option Yaml} {text : Bytes}
    (h : nonEmptyString node = some text) : text ≠ [] := by
  unfold nonEmptyString at h
  split at h
  · split at h
    · cases h
    · next hne => exact Option.some.inj h ▸ hne
  · cases h

theorem parsePositive_pos {node : Yaml} {key : String} {default value : ℤ}
    {message : Bytes} (hdefault : 0 < default)
    (h : parsePositive conversions node key default message = .ok value) : 0 < value := by
  unfold parsePositive at h
  split at h
  · exact Abort.pure_eq_ok_iff.mp h ▸ hdefault
  · obtain ⟨v, -, h⟩ := Abort.bind_eq_ok_iff.mp h
    split at h
    · cases h
    · next hpos => exact Abort.pure_eq_ok_iff.mp h ▸ not_le.mp hpos

theorem parseNonEmpty_ne_nil {node : Yaml} {key : String} {default value message : Bytes}
    (hdefault : default ≠ []) (h : parseNonEmpty node key default message = .ok value) :
    value ≠ [] := by
  unfold parseNonEmpty at h
  split at h
  · exact Abort.pure_eq_ok_iff.mp h ▸ hdefault
  · split at h
    · cases h
    · next htext => exact Abort.pure_eq_ok_iff.mp h ▸ nonEmptyString_ne_nil htext

theorem parseServer_valid {root : Yaml} {config config' : Config} (hvalid : config.Valid)
    (h : parseServer conversions root config = .ok config') : config'.Valid := by
  unfold parseServer at h
  split at h
  · exact Abort.pure_eq_ok_iff.mp h ▸ hvalid
  · split at h
    · cases h
    · obtain ⟨url, -, h⟩ := Abort.bind_eq_ok_iff.mp h
      obtain ⟨timeout, htimeout, h⟩ := Abort.bind_eq_ok_iff.mp h
      obtain ⟨size, hsize, h⟩ := Abort.bind_eq_ok_iff.mp h
      cases h
      exact { hvalid with
        uploadTimeout_pos := parsePositive_pos hvalid.uploadTimeout_pos htimeout
        maxBatchSize_pos := parsePositive_pos hvalid.maxBatchSize_pos hsize }

theorem parseLocalStorage_valid {root : Yaml} {config config' : Config}
    (hvalid : config.Valid) (h : parseLocalStorage conversions root config = .ok config') :
    config'.Valid := by
  unfold parseLocalStorage at h
  split at h
  · exact Abort.pure_eq_ok_iff.mp h ▸ hvalid
  · split at h
    · cases h
    · obtain ⟨path, hpath, h⟩ := Abort.bind_eq_ok_iff.mp h
      obtain ⟨maxSize, hsize, h⟩ := Abort.bind_eq_ok_iff.mp h
      obtain ⟨retention, hretention, h⟩ := Abort.bind_eq_ok_iff.mp h
      cases h
      exact { hvalid with
        path_ne_nil := parseNonEmpty_ne_nil hvalid.path_ne_nil hpath
        maxSize_pos := parsePositive_pos hvalid.maxSize_pos hsize
        retention_pos := parsePositive_pos hvalid.retention_pos hretention }

theorem parseSync_remoteInterval {index : ℕ} {node : Yaml}
    {config config' : ChannelSyncConfig} (hpos : 0 < config.remoteIntervalSeconds)
    (h : parseSync conversions index node config = .ok config') :
    0 < config'.remoteIntervalSeconds := by
  obtain ⟨_, -, h⟩ := Abort.bind_eq_ok_iff.mp h
  obtain ⟨interval, hinterval, h⟩ := Abort.bind_eq_ok_iff.mp h
  obtain ⟨_, -, h⟩ := Abort.bind_eq_ok_iff.mp h
  obtain ⟨_, -, h⟩ := Abort.bind_eq_ok_iff.mp h
  obtain ⟨_, -, h⟩ := Abort.bind_eq_ok_iff.mp h
  cases h
  exact parsePositive_pos hpos hinterval

theorem parseChannelSync_remoteInterval {index : ℕ} {node : Yaml}
    {config : ChannelSyncConfig} (h : parseChannelSync conversions index node = .ok config) :
    0 < config.remoteIntervalSeconds := by
  unfold parseChannelSync at h
  split at h
  · cases h
    decide
  · exact parseSync_remoteInterval (by decide) h
  · cases h

theorem parseChannel_valid {index : ℕ} {node : Yaml} {channel : ChannelConfig}
    (h : parseChannel conversions index node = .ok channel) : channel.Valid := by
  unfold parseChannel at h
  split at h
  · cases h
  split at h
  · cases h
  next id hid =>
  split at h
  · cases h
  next driver hdriver =>
  split at h
  · cases h
  obtain ⟨rate, -, h⟩ := Abort.bind_eq_ok_iff.mp h
  split at h
  · cases h
  next hrate =>
  obtain ⟨parameters, -, h⟩ := Abort.bind_eq_ok_iff.mp h
  obtain ⟨sync, hsync, h⟩ := Abort.bind_eq_ok_iff.mp h
  cases h
  exact ⟨nonEmptyString_ne_nil hid, nonEmptyString_ne_nil hdriver, by simpa using hrate,
    parseChannelSync_remoteInterval hsync⟩

theorem parseChannelList_valid {nodes : List Yaml} :
    ∀ {index : ℕ} {channels : List ChannelConfig},
      parseChannelList conversions index nodes = .ok channels →
      ∀ channel ∈ channels, channel.Valid := by
  induction nodes with
  | nil =>
      rintro index channels h
      cases h
      simp
  | cons node nodes ih =>
      intro index channels h
      obtain ⟨channel, hchannel, h⟩ := Abort.bind_eq_ok_iff.mp h
      obtain ⟨rest, hrest, h⟩ := Abort.bind_eq_ok_iff.mp h
      cases h
      exact List.forall_mem_cons.mpr ⟨parseChannel_valid hchannel, ih hrest⟩

theorem parseChannels_valid {root : Yaml} {config config' : Config} (hvalid : config.Valid)
    (h : parseChannels conversions root config = .ok config') : config'.Valid := by
  unfold parseChannels at h
  split at h
  · exact Abort.pure_eq_ok_iff.mp h ▸ hvalid
  · obtain ⟨channels, hchannels, h⟩ := Abort.bind_eq_ok_iff.mp h
    cases h
    refine { hvalid with channels := fun channel hchannel => ?_ }
    rcases List.mem_append.mp hchannel with hold | hnew
    · exact hvalid.channels channel hold
    · exact parseChannelList_valid hchannels channel hnew
  · cases h

theorem Config.valid_default (version : ℤ) {id : Bytes} (apiKeyFile : Bytes)
    (hid : id ≠ []) :
    Config.Valid { configVersion := version, node := ⟨id, apiKeyFile⟩ } where
  nodeId_ne_nil := hid
  uploadTimeout_pos := show (0 : ℤ) < 30 by decide
  maxBatchSize_pos := show (0 : ℤ) < 500 by decide
  path_ne_nil := show Bytes.ascii "/var/lib/bossa/telemetry.db" ≠ [] by decide
  maxSize_pos := show (0 : ℤ) < 256 by decide
  retention_pos := show (0 : ℤ) < 72 by decide
  channels := by simp

theorem parseConfig_valid {root : Yaml} {config : Config}
    (h : parseConfig conversions root = .ok config) : config.Valid := by
  unfold parseConfig at h
  split at h
  · cases h
  split at h
  · cases h
  obtain ⟨version, -, h⟩ := Abort.bind_eq_ok_iff.mp h
  split at h
  · cases h
  split at h
  · split at h
    · cases h
    next id hid =>
    split at h
    · cases h
    next apiKeyFile _ =>
    obtain ⟨c₁, h₁, h⟩ := Abort.bind_eq_ok_iff.mp h
    obtain ⟨c₂, h₂, h⟩ := Abort.bind_eq_ok_iff.mp h
    have hdefault := Config.valid_default version apiKeyFile (nonEmptyString_ne_nil hid)
    exact parseChannels_valid
      (parseLocalStorage_valid (parseServer_valid hdefault h₁) h₂) h
  · cases h

/-- A configuration that `load_config` returns has passed all checks. -/
theorem loadConfig_valid {load : Bytes → Except Bytes Yaml} {file : ConfigFile}
    {path : Bytes} {config : Config}
    (h : loadConfig conversions load file path = .ok config) : config.Valid := by
  unfold loadConfig at h
  split at h
  · cases h
  obtain ⟨found, -, h⟩ := Abort.bind_eq_ok_iff.mp h
  split at h
  · cases h
  split at h
  · cases h
  split at h
  · cases h
  split at h
  · cases h
  split at h
  · cases h
  split at h
  · cases h
  · exact parseConfig_valid h

end Valid

end Bossa.Core
