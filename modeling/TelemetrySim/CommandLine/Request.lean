import TelemetrySim.Duration
import TelemetrySim.Number.Decimal

/-!
Requests on the command line. Arguments are read from left to right, and the first one that is wrong
decides. Help and version are answered where they are met.
-/

set_option autoImplicit false
set_option relaxedAutoImplicit false

namespace TelemetrySim.CommandLine

inductive CommandName where
  | check | run | render
deriving DecidableEq

def CommandName.label : CommandName → String
  | check => "check"
  | run => "run"
  | render => "render"

/-- What there is help on. -/
inductive Topic where
  | program
  | command (name : CommandName)
  | help
deriving DecidableEq

inductive Command where
  | check (json : Bool)
  | run (reportInterval : Duration)
  | render (ticks : Nat)
deriving DecidableEq

/-- A command on the configuration at a path. -/
structure Invocation where
  command : Command
  path : String
  debug : Bool
deriving DecidableEq

inductive Request where
  | help (t : Topic)
  | version
  | invoke (i : Invocation)
deriving DecidableEq

/-! ### Options -/

inductive Switch where
  | debug | json
deriving DecidableEq

inductive Setting where
  | path | reportInterval | ticks
deriving DecidableEq

inductive Flag where
  | help
  | switch (s : Switch)
  | setting (s : Setting)
deriving DecidableEq

/-- The flag of a long name. -/
def Flag.long (command : CommandName) (name : String) : Option Flag :=
  if name = "help" then some .help
  else if name = "debug" then some (.switch .debug)
  else if name = "config" then some (.setting .path)
  else if name = "json" ∧ command = .check then some (.switch .json)
  else if name = "report-interval" ∧ command = .run then some (.setting .reportInterval)
  else if name = "ticks" ∧ command = .render then some (.setting .ticks)
  else none

/-- What the options of a command have given so far. -/
structure Given where
  debug : Bool := false
  json : Bool := false
  path : Option String := none
  reportInterval : Option Duration := none
  ticks : Option Nat := none
deriving DecidableEq

/-- A whole number of 32 bits; a sign is allowed. -/
def readTicks (s : String) : Option Nat :=
  match s.toList with
  | '-' :: ds => (Number.readNat 10 ds).bind fun n ↦ if n = 0 then some 0 else none
  | '+' :: ds => (Number.readNat 10 ds).bind fun n ↦ if n < UInt32.size then some n else none
  | ds => (Number.readNat 10 ds).bind fun n ↦ if n < UInt32.size then some n else none

def readReportInterval (s : String) : Option Duration :=
  (Duration.read s).bind fun d ↦ if d.isZero then none else some d

namespace Given

/-- Turns a switch on, which is done only once. -/
def turnOn (g : Given) : Switch → Option Given
  | .debug => if g.debug then none else some { g with debug := true }
  | .json => if g.json then none else some { g with json := true }

/-- Gives a setting its value, which is done only once. -/
def set (g : Given) (value : String) : Setting → Option Given
  | .path => if g.path.isSome ∨ value = "" then none else some { g with path := some value }
  | .reportInterval => do
    let d ← readReportInterval value
    if g.reportInterval.isSome then none else some { g with reportInterval := some d }
  | .ticks => do
    let n ← readTicks value
    if g.ticks.isSome then none else some { g with ticks := some n }

end Given

/-- One argument, taken apart. -/
inductive Argument where
  /-- Two hyphens alone. -/
  | endOfOptions
  | long (name : String) (value : Option String)
  | short (letter : Char) (rest : List Char)
  | plain (text : String)
deriving DecidableEq

def Argument.ofText (s : String) : Argument :=
  match s.toList with
  | ['-', '-'] => .endOfOptions
  | '-' :: '-' :: r =>
    let name := String.ofList (r.takeWhile (· ≠ '='))
    match r.dropWhile (· ≠ '=') with
    | [] => .long name none
    | _ :: v => .long name (some (String.ofList v))
  | '-' :: c :: r => .short c r
  | _ => .plain s

/-- The value of a setting that stands in the argument of its letter. -/
def attachedValue : List Char → Option String
  | [] => none
  | '=' :: v => some (String.ofList v)
  | v => some (String.ofList v)

/-- An option of a command, with its value if that stands in the same argument. -/
def option (command : CommandName) : Argument → Option (Flag × Option String)
  | .long name value => do
    let flag ← Flag.long command name
    match flag, value with
    | .setting _, value => some (flag, value)
    | flag, none => some (flag, none)
    | _, some _ => none
  | .short 'h' _ => some (.help, none)
  | .short 'c' r => some (.setting .path, attachedValue r)
  | _ => none

/-- What the arguments of a command come to. -/
inductive Options where
  | help
  | given (g : Given)

/-- Reads the arguments of a command. -/
def Options.read (command : CommandName) : List String → Given → Option Options
  | [], g => some (.given g)
  | arg :: rest, g =>
    if Argument.ofText arg = .endOfOptions then
      if rest = [] then some (.given g) else none
    else
      match option command (Argument.ofText arg), rest with
      | none, _ => none
      | some (.help, _), _ => some .help
      | some (.switch s, _), rest => (g.turnOn s).bind fun g ↦ Options.read command rest g
      | some (.setting s, some v), rest => (g.set v s).bind fun g ↦ Options.read command rest g
      | some (.setting _, none), [] => none
      | some (.setting s, none), next :: rest =>
        match Argument.ofText next with
        | .plain v => (g.set v s).bind fun g ↦ Options.read command rest g
        | _ => none

/-- The request of a command, whose path is required. -/
def Given.request (g : Given) (debug : Bool) (name : CommandName) : Option Request := do
  let path ← g.path
  let command := match name with
    | .check => Command.check g.json
    | .run => Command.run (g.reportInterval.getD (.ofSeconds 5))
    | .render => Command.render (g.ticks.getD 1)
  some (.invoke ⟨command, path, debug || g.debug⟩)

def CommandName.named (s : String) : Option CommandName :=
  [CommandName.check, .run, .render].find? fun c ↦ c.label = s

/-- The help that the arguments behind `help` ask for. -/
def Topic.ofArgs : List String → Option Topic
  | [] => some .program
  | [s] => if s = "help" then some .help else (CommandName.named s).map .command
  | _ => none

namespace Request

/-- Reads the arguments in front of a command, and then the command's own. -/
def ofArgsFrom (debug : Bool) : List String → Option Request
  | [] => none
  | arg :: rest =>
    match Argument.ofText arg with
    | .long "debug" none => if debug then none else ofArgsFrom true rest
    | .long "help" none => some (.help .program)
    | .long "version" none => some .version
    | .short 'h' _ => some (.help .program)
    | .short 'V' _ => some .version
    | .plain s =>
      if s = "help" then (Topic.ofArgs rest).map .help
      else do
        let name ← CommandName.named s
        match ← Options.read name rest {} with
        | .help => some (.help (.command name))
        | .given g => g.request debug name
    | _ => none

/-- The request of a list of arguments; none if they are used wrongly. -/
def ofArgs (args : List String) : Option Request := ofArgsFrom false args

end Request

end TelemetrySim.CommandLine
