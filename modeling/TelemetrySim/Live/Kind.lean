import TelemetrySim.Text.Quoted

/-!
The kinds of running objects that there are, by the names that a configuration gives them, and what
can be wrong with one that is to be made.
-/

set_option autoImplicit false
set_option relaxedAutoImplicit false

namespace TelemetrySim.Live

inductive Component where
  | clock | source | transform | reset
deriving DecidableEq

def Component.label : Component → String
  | clock => "clock"
  | source => "source"
  | transform => "transform"
  | reset => "reset"

/-- Why an object cannot be made or started. -/
inductive Fault where
  | unknownKind (component : Component) (kind : String)
  | unnamedTransform
  | zeroInterval
  | emptyRange (min max : Int64)
  /-- A clock was to start where no time passes. -/
  | noTime
deriving DecidableEq

namespace Fault

def invalid (c : Component) (text : String) : String :=
  "Invalid " ++ c.label ++ " configuration: " ++ text

def message : Fault → String
  | unknownKind c kind => "Unknown " ++ c.label ++ " type: " ++ Text.quoted kind
  | unnamedTransform => invalid .transform "transform type cannot be empty"
  | zeroInterval => invalid .clock "interval must be greater than 0"
  | emptyRange min max =>
    invalid .source ("min " ++ toString min.toInt ++ " exceeds max " ++ toString max.toInt)
  | noTime => "Clock cannot start outside of a tokio runtime"

end Fault

/-- How a clock ticks. -/
inductive ClockKind where
  | periodic
deriving DecidableEq

def ClockKind.label : ClockKind → String
  | periodic => "periodic"

def ClockKind.named (s : String) : Except Fault ClockKind :=
  if s = "periodic" then .ok .periodic else .error (.unknownKind .clock s)

/-- How a source draws. -/
inductive SourceKind where
  | randomInt
deriving DecidableEq

def SourceKind.label : SourceKind → String
  | randomInt => "random_int"

def SourceKind.named (s : String) : Except Fault SourceKind :=
  if s = "random_int" then .ok .randomInt else .error (.unknownKind .source s)

/-- How a value takes in an update. -/
inductive Transform where
  | accumulate
deriving DecidableEq

def Transform.label : Transform → String
  | accumulate => "accumulate"

def Transform.named (s : String) : Except Fault Transform :=
  if s = "accumulate" then .ok .accumulate
  else if s = "" then .error .unnamedTransform
  else .error (.unknownKind .transform s)

/-- What happens to a value once it has been read. -/
inductive ResetPolicy where
  | never
  | onRead (value : Int64)
deriving DecidableEq

/-- The policy of a name; no name at all stands for no reset. -/
def ResetPolicy.named (s : String) (value : Int64) : Except Fault ResetPolicy :=
  if s = "" then .ok .never
  else if s = "on_read" then .ok (.onRead value)
  else .error (.unknownKind .reset s)

end TelemetrySim.Live
