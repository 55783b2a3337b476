import Bossa.Data.Json
import Bossa.Telemetry.Sample

/-!
# The edge configuration

The structures of `include/bossa/core/config.hpp` with their defaults. Paths
are byte strings.
-/

namespace Bossa.Core

open Telemetry

structure NodeConfig where
  id : Bytes := []
  apiKeyFile : Bytes := []
  deriving DecidableEq, Repr

structure ServerConfig where
  url : Bytes := []
  uploadTimeoutSeconds : ℤ := 30
  maxBatchSize : ℤ := 500
  deriving DecidableEq, Repr

structure LocalStorageConfig where
  path : Bytes := Bytes.ascii "/var/lib/bossa/telemetry.db"
  maxSizeMegabytes : ℤ := 256
  retentionHours : ℤ := 72
  deriving DecidableEq, Repr

structure ChannelSyncConfig where
  destinationLocal : Bool := true
  destinationRemote : Bool := true
  remoteIntervalSeconds : ℤ := 60
  priority : Priority := .normal
  mode : SyncMode := .batch
  onChangeThreshold : Double := .finite 0
  deriving DecidableEq, Repr

/-- One configured sampling channel. -/
structure ChannelConfig where
  id : Bytes := []
  driver : Bytes := []
  parameters : Json := .obj []
  sampleRateHz : Double := .finite 1
  sync : ChannelSyncConfig := {}

/-- Parsed edge configuration. -/
structure Config where
  configVersion : ℤ := 0
  node : NodeConfig := {}
  server : ServerConfig := {}
  localStorage : LocalStorageConfig := {}
  channels : List ChannelConfig := []

end Bossa.Core
