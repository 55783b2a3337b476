import Bossa.Core.Acceptance
import Bossa.Runtime.TelemetryRuntime

/-!
# The edge service

`EdgeService` of `src/daemon_main.cpp`: it owns the configuration and the runtime,
reloads them on a signal and runs the loop of the daemon. Nothing around `reload` and
`loop` catches an exception, so one that reaches them ends the process.
-/

namespace Bossa.Runtime

open Bossa.Core

/-- The state of an `EdgeService`. -/
structure EdgeService where
  configPath : Bytes
  config : Config
  runtime : TelemetryRuntime

/-- How a round of the loop ends: in the heartbeat of five seconds, in a pause of a tenth
of a second, in a sleep until a time, or at once. -/
inductive Pause where
  | heartbeat
  | idle
  | until (wake : ℤ)
  | none
  deriving DecidableEq, Repr

namespace EdgeService

/-- `EdgeService::reload`. -/
def reload (conversions : YamlConversions) (load : Bytes → Except Bytes Yaml)
    (file : ConfigFile) (input : ConfigureInput) (s : EdgeService) :
    Except Abort EdgeService :=
  match loadConfig conversions load file s.configPath with
  | .error .escape => .error .exception
  | .error (.fail _) => pure s
  | .ok config =>
      pure { s with config := config, runtime := (s.runtime.configure input config).2 }

/-- `EdgeService::loop`, with the outcome of counting the rows and the clock reading that
follow the tick. -/
def loop (input : TickInput) (countFault : Bool) (now : ℤ) (s : EdgeService) :
    Except Abort (Pause × EdgeService) :=
  if s.config.channels.isEmpty then pure (.heartbeat, s)
  else do
    let ticked ← s.runtime.tick input
    let pause :=
      match ticked.2.nextWake countFault with
      | none => .idle
      | some wake => if wake > now then .until wake else .none
    pure (pause, { s with runtime := ticked.2 })

end EdgeService

section Reload

variable {conversions : YamlConversions} {load : Bytes → Except Bytes Yaml}
  {file : ConfigFile} {path : Bytes} {root : Yaml}

/-- `load_config` returns, with a configuration or with a message, and a reload of a file
that it does not accept keeps the service as it is. -/
structure Reports (conversions : YamlConversions) (load : Bytes → Except Bytes Yaml)
    (file : ConfigFile) (path : Bytes) : Prop where
  returns : (∃ config, loadConfig conversions load file path = .ok config) ∨
    ∃ message, message ≠ [] ∧ loadConfig conversions load file path = .error (.fail message)
  reload : ∀ (s : EdgeService) (input : ConfigureInput), s.configPath = path →
    (¬ ∃ config, loadConfig conversions load file path = .ok config) →
    s.reload conversions load file input = .ok s

/-- A document is reported exactly when the first field that is not accepted, if there is
one, is refused with a message. -/
theorem reports_iff (hpath : path ≠ []) (hfile : file.Parses load root) :
    Reports conversions load file path ↔ Verdict.first (verdicts conversions root) ≠ .thrown := by
  have houtcome := @parseConfig_outcome conversions root
  rw [← loadConfig_of_parses hpath hfile] at houtcome
  constructor
  · intro hreports
    exact houtcome.reported_iff.mp hreports.returns
  · intro hverdict
    refine ⟨houtcome.reported_iff.mpr hverdict, fun s input hs hrefused => ?_⟩
    rcases houtcome.reported_iff.mpr hverdict with haccepted | ⟨message, -, hmessage⟩
    · exact absurd haccepted hrefused
    · rw [EdgeService.reload, hs, hmessage]
      rfl

end Reload

def urgentChannel : Yaml :=
  .map
    [(scalarText "id", scalarText "t"), (scalarText "driver", scalarText "sim"),
      (scalarText "sample_rate_hz", scalarText "1"),
      (scalarText "sync", .map [(scalarText "priority", scalarText "urgent")])]

/-- A document whose numbers are converted and whose priority is refused keeps the service
running. -/
theorem reports_iff_unknown_priority :
    (¬ ∃ config, loadConfig unitConversions (fun _ => .ok (unitDocument [urgentChannel]))
        (readableFile (unitText 1 ++ "    sync:\n      priority: urgent\n"))
        (Bytes.ascii "config.yaml") = .ok config) ∧
      Reports unitConversions (fun _ => .ok (unitDocument [urgentChannel]))
        (readableFile (unitText 1 ++ "    sync:\n      priority: urgent\n"))
        (Bytes.ascii "config.yaml") := by
  have hfile := @readableFile_parses (unitText 1 ++ "    sync:\n      priority: urgent\n")
    (unitDocument [urgentChannel]) (by decide +kernel)
  refine ⟨?_, (reports_iff (by decide) hfile).mpr (by decide +kernel)⟩
  rw [loadConfig_of_parses (by decide) hfile, (parseConfig_outcome _).exists_ok_iff]
  decide +kernel

/-- A version that is no number ends the daemon. -/
theorem not_reports_version :
    ¬ ∀ (conversions : YamlConversions) (load : Bytes → Except Bytes Yaml)
      (file : ConfigFile) (path : Bytes) (root : Yaml), path ≠ [] →
      file.Parses load root → Reports conversions load file path := by
  intro hclaim
  have hreports := hclaim unitConversions
    (fun _ => .ok (.map [(scalarText "config_version", scalarText "abc")]))
    (readableFile "config_version: abc\n") (Bytes.ascii "config.yaml") _
    (by decide) (readableFile_parses _ (by decide +kernel))
  rcases hreports.returns with ⟨config, hconfig⟩ | ⟨message, -, hmessage⟩
  · cases hconfig
  · cases hmessage

end Bossa.Runtime
