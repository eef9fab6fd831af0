import TelemetrySim.CommandLine.Answer

/-!
The program: it takes the arguments, reads the file that they name, and prints the answer. A running
generator reports its readings until the program is interrupted.
-/

set_option autoImplicit false
set_option relaxedAutoImplicit false

namespace TelemetrySim.CommandLine

/-- What is found at a path. -/
def contentAt (path : String) : IO FileContent := do
  try
    pure (.bytes (← IO.FS.readBinFile path))
  catch
    | .noFileOrDirectory .. => pure .missing
    | .inappropriateType .. => pure .directory
    | e => pure (.failed (toString e))

def fail (f : Failure) : IO UInt32 := do
  IO.eprintln ("Error: " ++ f.message)
  pure (UInt32.ofNat f.exitCode)

/-- Reports the readings of a running generator again and again. -/
def report (r : Exposition.Registry) (interval : Duration) (g : Live.Generator) (start : Nat) :
    IO Unit := do
  let mut g := g
  let mut last := start
  repeat
    IO.sleep (UInt32.ofNat (interval.nanos / 1000000))
    let now ← IO.monoNanosNow
    let (text, next) := r.render (g.elapse last now)
    g := next
    last := now
    IO.println ("Current readings:\n" ++ text)
    (← IO.getStdout).flush

/-- Starts the generator of a configuration and reports its readings. -/
def runOn (c : Config) (interval : Duration) (fallbackSeed : UInt64) : IO UInt32 := do
  match materialize c fallbackSeed with
  | .error f => fail f
  | .ok (g, r) =>
    let now ← IO.monoNanosNow
    match g.start (some now) with
    | (some f, _) => fail (.start f)
    | (none, g) =>
      report r interval g now
      pure 0

/-- Carries out an invocation. -/
def perform (i : Invocation) (content : FileContent) (fallbackSeed : UInt64) : IO UInt32 := do
  match i.command with
  | .run interval =>
    match Config.load i.path content with
    | .error e => fail (.load e)
    | .ok c => runOn c interval fallbackSeed
  | _ =>
    match i.output content fallbackSeed with
    | .error f => fail f
    | .ok text =>
      IO.print text
      pure 0

end TelemetrySim.CommandLine

open TelemetrySim.CommandLine in
def main (args : List String) : IO UInt32 := do
  match Request.ofArgs args with
  | some (.invoke i) => perform i (← contentAt i.path) (UInt64.ofNat (← IO.monoNanosNow))
  | some (.help t) =>
    IO.print t.text
    pure 0
  | some .version =>
    IO.print versionText
    pure 0
  | none =>
    IO.eprint Topic.program.text
    pure 2
