import Std.Time.DateTime
import Telemetry.Bridge.Basic
import Telemetry.Config.Loading
import Telemetry.Logging
import Telemetry.Report.Reporter

/-!
# The command line

`telemetry [CONFIG]` loads a configuration, starts a bridge over a simulated device and keeps it
going, one cycle after another. Reports are printed as lines of JSON, one for each interval. An
error is printed and ends the program with the code 1.
-/

open Telemetry

namespace Telemetry.CommandLine

def clock : IO Nat := do
  return (← Std.Time.Timestamp.now).toNanosecondsSinceUnixEpoch.val.toNat

/-- The text of a file, if it can be read. -/
def textOf (path : String) : IO (Option String) := do
  try return some (← IO.FS.readFile path) catch _ => return none

def directory (paths : List String) : IO Config.Directory := do
  let mut files := []
  for path in paths do
    if let some text ← textOf path then files := files ++ [(path, text)]
  return files

def environment : IO (List (String × String)) := do
  let text := (← textOf "/proc/self/environ").getD ""
  return (text.splitOn "\x00").filterMap fun entry =>
    match entry.splitOn "=" with
    | name :: first :: rest => some (name, "=".intercalate (first :: rest))
    | _ => none

/-- The configuration that the command line and the environment ask for. -/
def configuration (path : Option String) : IO (Except BridgeError BridgeConfig) := do
  let files ← directory (Config.candidates (path.getD Config.standardName))
  return Config.load files path (← environment)

def waitUntil (deadline : Nat) : IO Unit := do
  IO.sleep (UInt32.ofNat ((deadline - (← clock)) / 1000000))

variable {σ : Type}

partial def keepGoing (publisher : Publisher σ) (bridge : Bridge) (site : Site σ)
    (loop : Scheduling.Loop) (reporter : Reporter) (nextReport : Nat) : IO Unit := do
  let pace := bridge.config.realtime.pace
  let (bridge, site) := bridge.cycle publisher (← clock) site
  let loop := Scheduling.Loop.measure pace { loop with now := ← clock }
  let bridge := { bridge with task := { bridge.task with statistics := loop.statistics } }
  let loop := { loop with deadline := Scheduling.Loop.later pace loop.deadline }
  if loop.now < nextReport then
    waitUntil loop.deadline
    keepGoing publisher bridge site loop reporter nextReport
  else
    let (report, reporter) := reporter.react bridge.observe loop.now .interval
    let messages := (report.map fun r => r.message reporter.topic).toList
    for m in messages do
      IO.println (m.topic ++ " " ++ (Bytes.toText? m.payload).getD "")
    (← IO.getStdout).flush
    let published := messages.foldl (fun state m => (publisher.publish state m).2) site.published
    waitUntil loop.deadline
    keepGoing publisher bridge { site with published } loop reporter
      (nextReport + bridge.config.statsIntervalMillis.toNat * 1000000)

def run (config : BridgeConfig) (publisher : Publisher σ) (state : σ) : IO UInt32 := do
  let host := Scheduling.Host.new (config.realtime.backend.resolve ⟨1, 0⟩)
  let now ← clock
  match Bridge.start publisher config now ⟨1, .empty, host, state⟩ with
  | (.error e, _) =>
    IO.eprintln s!"Error: {e.message}"
    return 1
  | (.ok bridge, site) =>
    keepGoing publisher bridge site (.start config.realtime.pace now .empty)
      (.new config.mqtt.topicRoot now) (now + config.statsIntervalMillis.toNat * 1000000)
    return 0

end Telemetry.CommandLine

open Telemetry.CommandLine in
def main (arguments : List String) : IO UInt32 := do
  match (← configuration arguments.head?) with
  | .error e =>
    IO.eprintln s!"Error: {e.message}"
    return 1
  | .ok config =>
    match setUpLogging false config.logLevel with
    | .error e =>
      IO.eprintln s!"Error: {e.message}"
      return 1
    | .ok _ =>
      if config.mqtt.dryRun then run config .logging ⟨0, 0⟩
      else run config .waiting (.new config.mqtt (toString (← clock)))
