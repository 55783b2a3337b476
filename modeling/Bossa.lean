import Bossa.Data.Bytes
import Bossa.Data.Double
import Bossa.Data.Civil
import Bossa.Data.Circular
import Bossa.Data.Selection
import Bossa.Telemetry.Sample
import Bossa.Telemetry.RingBuffer.Basic
import Bossa.Transition.Machine
import Bossa.Telemetry.RingBuffer.Refinement
import Bossa.Data.Grid
import Bossa.Core.Abort
import Bossa.Telemetry.Scheduler.Basic
import Bossa.Telemetry.Scheduler.Range
import Bossa.Data.Json
import Bossa.Storage.LocalStore
import Bossa.Sync.Payload
import Bossa.Sync.UploadPolicy
import Bossa.Core.Config
import Bossa.Core.LoadConfig
import Bossa.Sync.HttpUploader
import Bossa.Transition.Ledger
import Bossa.Runtime.TelemetryRuntime
import Bossa.Runtime.Books
import Bossa.Transition.Run
import Bossa.Transition.Simulation
import Bossa.Runtime.Accounting
import Bossa.Runtime.Confinement
import Bossa.Runtime.Rejection
import Bossa.Runtime.Reload
import Bossa.Data.Keyed
import Bossa.Worker.Database
import Bossa.Worker.Ingest
import Bossa.Io.LibgpiodGpio
import Bossa.Protocol.Wire
import Bossa.Protocol.System
import Bossa.Protocol.Delivery
import Bossa.Protocol.Identity
import Bossa.Worker.Answer
import Bossa.Worker.Replay
import Bossa.Core.Checks
import Bossa.Core.Acceptance
import Bossa.Runtime.Service
import Bossa.Runtime.Backoff
import Bossa.Runtime.Calls
import Bossa.Runtime.Retry
import Bossa.Runtime.Wake
import Bossa.Runtime.Overflow
import Bossa.Data.Ascending
import Bossa.Sync.Queue
import Bossa.Sync.Resend
import Bossa.Runtime.Retention
import Bossa.Runtime.Counting
import Bossa.Runtime.Progress
import Bossa.Runtime.Tables
import Bossa.Data.Deadband
import Bossa.Runtime.History
import Bossa.Runtime.Steady
import Bossa.Runtime.Flush
import Bossa.Runtime.Interval
import Bossa.Runtime.Changes
import Bossa.Data.Summary
import Bossa.Transition.Fold
import Bossa.Sync.Flags
import Bossa.Telemetry.RingBuffer.Order
import Bossa.Worker.Schema
import Bossa.Data.Utf8
import Bossa.Runtime.Texts
import Bossa.Runtime.Endings
import Bossa.Core.Word32
import Bossa.Drivers.Bme280
import Bossa.Drivers.Decoding
import Bossa.Drivers.Humidity
import Bossa.Drivers.Overflow
import Bossa.Core.Service
import Bossa.Data.ByteOrder
import Bossa.Data.Chronology
import Bossa.Worker.Fetch
import Bossa.Worker.Concurrent
import Bossa.Worker.Reads
import Bossa.Protocol.Dashboard
import Bossa.Protocol.Fleet
import Bossa.Protocol.Restart
import Bossa.Protocol.Eventual
import Bossa.Core.Response
import Bossa.Runtime.Daemon
import Bossa.Protocol.Deployed
import Bossa.Transition.Resources
import Bossa.Storage.Connection
import Bossa.Io.GpioHandles
import Bossa.Drivers.Parameters
import Bossa.Drivers.Session
import Bossa.Transition.Collection
import Bossa.Runtime.Drivers
