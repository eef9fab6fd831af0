import TelemetrySim.CommandLine.Request
import TelemetrySim.Config.Json
import TelemetrySim.Exposition.Registry
import TelemetrySim.Load

/-!
What the command line answers: a text on standard output and an exit code. It is 1 if the request
fails, with nothing on standard output, 2 if the arguments are wrong, and 101 if the program panics.
-/

set_option autoImplicit false
set_option relaxedAutoImplicit false

namespace TelemetrySim.CommandLine

/-! ### Help -/

def CommandName.about : CommandName → String
  | check => "Compile a configuration and report what it resolves to"
  | run => "Start every clock and log the exposition until interrupted"
  | render => "Drive every clock a fixed number of times and print the exposition"

def helpAbout : String := "Print this message or the help of the given subcommand(s)"

/-- Lines of two columns, indented, the second column aligned. -/
def columns (rows : List (String × String)) : String :=
  let width := rows.foldl (fun w r ↦ max w r.1.length) 0
  String.join (rows.map fun (left, right) ↦
    let gap := String.ofList (List.replicate (width - left.length) ' ')
    "  " ++ left ++ gap ++ "  " ++ right ++ "\n")

def debugRow : String × String := ("    --debug", "Enable debug logging")

def helpRow : String × String := ("-h, --help", "Print help")

/-- The options of a command. -/
def CommandName.rows : CommandName → List (String × String)
  | check => [
    ("-c, --config <CONFIG>", "Configuration file (YAML, or TOML with a .toml extension)"),
    debugRow,
    ("    --json", "Print the resolved configuration as JSON"),
    helpRow]
  | run => [
    ("-c, --config <CONFIG>", ""),
    debugRow,
    ("    --report-interval <REPORT_INTERVAL>",
      "How often to log the current readings [default: 5s]"),
    helpRow]
  | render => [
    ("-c, --config <CONFIG>", ""),
    debugRow,
    ("    --ticks <TICKS>", "Ticks delivered by each clock before rendering [default: 1]"),
    helpRow]

def Topic.text : Topic → String
  | program =>
    "Synthesizes configurable telemetry signals\n\nUsage: otelbox [OPTIONS] <COMMAND>\n\n" ++
      "Commands:\n" ++
      columns ([CommandName.check, .run, .render].map (fun c ↦ (c.label, c.about)) ++
        [("help", helpAbout)]) ++
      "\nOptions:\n" ++ columns [debugRow, helpRow, ("-V, --version", "Print version")]
  | command c =>
    c.about ++ "\n\nUsage: otelbox " ++ c.label ++ " [OPTIONS] --config <CONFIG>\n\nOptions:\n" ++
      columns c.rows
  | help =>
    helpAbout ++ "\n\nUsage: otelbox help [COMMAND]...\n\nArguments:\n" ++
      columns [("[COMMAND]...", "Print help for the subcommand(s)")]

def versionText : String := "otelbox 0.1.0\n"

/-! ### Commands -/

/-- Why a command fails. -/
inductive Failure where
  | load (e : LoadError)
  | build (e : Live.BuildError)
  | missingValue (e : Exposition.MissingValue)
  | start (f : Live.Fault)

def Failure.message : Failure → String
  | load e => e.message
  | build e => e.message
  | missingValue e => e.message
  | start f => Live.Generator.startMessage f

def Failure.exitCode : Failure → Nat
  | load (.uncompiled (.panicked _)) => 101
  | _ => 1

/-- The exporter, in one line. -/
def exportText : Config.Export → String
  | .pull p => "pull on :" ++ toString p.port.toNat ++ p.path
  | .push p => "push to " ++ p.endpoint ++ " every " ++ p.pushInterval.text

def seedLine : Option UInt64 → String
  | none => ""
  | some seed => "  Seed:      " ++ toString seed.toNat ++ "\n"

/-- What a configuration holds. -/
def summary (c : Config) : String :=
  "Configuration is valid\n  Metrics:   " ++ toString c.metrics.length ++
    "\n  Instances: " ++ toString c.instances.clocks.length ++ " clocks, " ++
    toString c.instances.sources.length ++ " sources, " ++
    toString c.instances.values.length ++ " values\n  Export:    " ++
    exportText c.exporter ++ "\n" ++ seedLine c.settings.seed

/-- The running objects of a configuration, and the metrics over them. -/
def materialize (c : Config) (fallbackSeed : UInt64) :
    Except Failure (Live.Generator × Exposition.Registry) := do
  let seeds := Random.Seeds.ofSetting c.settings.seed fallbackSeed
  let g ← (Live.Generator.ofConfig seeds c).mapError .build
  let r ← (Exposition.Registry.ofMetrics c.metrics g).mapError .missingValue
  pure (g, r)

/-- The exposition after some ticks of every clock. -/
def rendering (c : Config) (ticks : Nat) (fallbackSeed : UInt64) : Except Failure String := do
  let (g, r) ← materialize c fallbackSeed
  pure (r.render (g.tickAllTimes ticks)).1

/-- The output of a command. A command that runs on has none by itself. -/
def Command.output (command : Command) (c : Config) (fallbackSeed : UInt64) :
    Except Failure String :=
  match command with
  | check json => pure (if json then c.toJson.pretty ++ "\n" else summary c)
  | render ticks => rendering c ticks fallbackSeed
  | run _ => do
    let _ ← materialize c fallbackSeed
    pure ""

/-- The output of an invocation, given what is found at its path. -/
def Invocation.output (i : Invocation) (content : FileContent) (fallbackSeed : UInt64) :
    Except Failure String := do
  let c ← (Config.load i.path content).mapError .load
  i.command.output c fallbackSeed

structure Answer where
  exitCode : Nat
  stdout : String
deriving DecidableEq

def Answer.ofOutput : Except Failure String → Answer
  | .ok s => ⟨0, s⟩
  | .error f => ⟨f.exitCode, ""⟩

/-- The answer to arguments, given what is found at each path. -/
def Answer.ofArgs (args : List String) (contentAt : String → FileContent)
    (fallbackSeed : UInt64) : Answer :=
  match Request.ofArgs args with
  | none => ⟨2, ""⟩
  | some (.help t) => ⟨0, t.text⟩
  | some .version => ⟨0, versionText⟩
  | some (.invoke i) => .ofOutput (i.output (contentAt i.path) fallbackSeed)

end TelemetrySim.CommandLine
