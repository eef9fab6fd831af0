import TelemetrySim.Duration
import TelemetrySim.Number.Binary64

/-!
Declarations as a document writes them. A clock, source or value is either declared under a name or
referred to; both have the same fields, and what is not written is `none`. Strings that name things
may hold placeholders until the document is expanded.
-/

set_option autoImplicit false
set_option relaxedAutoImplicit false

namespace TelemetrySim.Decl

/-- How a clock, source or value says what it is: a shared object that is built once, a copy of a
template with the written fields replaced, or all mandatory fields in place. -/
inductive Reference where
  | shared (name : String)
  | copied (name : String)
  | inPlace
deriving DecidableEq

/-- A shared object takes precedence over a template. -/
def Reference.of : Option String → Option String → Reference
  | some name, _ => .shared name
  | none, some name => .copied name
  | none, none => .inPlace

structure Clock where
  name : Option String := none
  instanceName : Option String := none
  templateName : Option String := none
  kind : Option String := none
  interval : Option Duration := none
deriving DecidableEq

namespace Clock

def reference (c : Clock) : Reference := .of c.instanceName c.templateName

/-- Whether a field is written that a shared clock does not allow beside it. -/
def hasOverrides (c : Clock) : Bool :=
  c.templateName.isSome || c.kind.isSome || c.interval.isSome

end Clock

structure Source where
  name : Option String := none
  instanceName : Option String := none
  templateName : Option String := none
  kind : Option String := none
  clock : Option Clock := none
  min : Option Int64 := none
  max : Option Int64 := none
deriving DecidableEq

namespace Source

def reference (s : Source) : Reference := .of s.instanceName s.templateName

def hasOverrides (s : Source) : Bool :=
  s.templateName.isSome || s.kind.isSome || s.clock.isSome || s.min.isSome || s.max.isSome

end Source

/-- A transform by the name of its kind. -/
structure Transform where
  kind : String
deriving DecidableEq

/-- A reset policy by the name of its kind, with the number it resets to. -/
structure Reset where
  kind : String
  value : Int64 := 0
deriving DecidableEq

structure Value where
  name : Option String := none
  instanceName : Option String := none
  templateName : Option String := none
  source : Option Source := none
  clock : Option Clock := none
  transforms : Option (List Transform) := none
  reset : Option Reset := none
deriving DecidableEq

namespace Value

def reference (v : Value) : Reference := .of v.instanceName v.templateName

def hasOverrides (v : Value) : Bool :=
  v.templateName.isSome || v.source.isSome || v.clock.isSome || v.transforms.isSome ||
    v.reset.isSome

end Value

/-- The name of a metric: one for both exporters, or one for each. -/
inductive MetricName where
  | same (name : String)
  | forms (prometheus otel : Option String)
deriving DecidableEq

/-- A text that says something. -/
def nonEmpty (s : Option String) : Option String := s.filter (· ≠ "")

namespace MetricName

/-- A form that is missing or empty is replaced by the other one. -/
def prometheus : MetricName → String
  | same name => name
  | forms p o => ((nonEmpty p).or (nonEmpty o)).getD ""

def otel : MetricName → String
  | same name => name
  | forms p o => ((nonEmpty o).or (nonEmpty p)).getD ""

end MetricName

/-- Attributes in the order of the document, each key once. -/
abbrev Attributes := List (String × String)

structure Metric where
  name : MetricName
  templateName : Option String := none
  kind : Option String := none
  description : Option String := none
  value : Option Value := none
  attributes : Option Attributes := none
deriving DecidableEq

structure MetricTemplate where
  name : Option String := none
  templateName : Option String := none
  kind : Option String := none
  description : Option String := none
  value : Option Value := none
  attributes : Option Attributes := none
deriving DecidableEq

structure Templates where
  clocks : List Clock := []
  sources : List Source := []
  values : List Value := []
  metrics : List MetricTemplate := []
deriving DecidableEq

structure Instances where
  clocks : List Clock := []
  sources : List Source := []
  values : List Value := []
deriving DecidableEq

/-- One element of an iterator that is written as a list. -/
inductive Scalar where
  | text (s : String)
  | integer (i : Int64)
  | float (x : Number.Binary64)
  | boolean (b : Bool)
deriving DecidableEq

def Scalar.render : Scalar → String
  | text s => s
  | integer i => toString i.toInt
  | float x => x.plainText
  | boolean b => if b then "true" else "false"

/-- The numbers from `start` on that lie below `stop`, `step` apart. -/
structure Range where
  start : Int64
  stop : Int64
  step : Int64 := 1
deriving DecidableEq

inductive Domain where
  | values (items : List Scalar)
  | range (r : Range)
deriving DecidableEq

/-- The pull exporter. A section that is written is enabled unless it says otherwise. -/
structure Prometheus where
  enabled : Option Bool := none
  port : Option Int64 := none
  path : Option String := none
deriving DecidableEq

/-- One interval for reading and pushing, or one for each. -/
inductive Intervals where
  | same (d : Duration)
  | forms (read push : Option Duration)
deriving DecidableEq

/-- The push exporter. -/
structure Otel where
  enabled : Option Bool := none
  transport : Option String := none
  host : Option String := none
  port : Option Int64 := none
  interval : Option Intervals := none
  resource : Option Attributes := none
  headers : Option Attributes := none
deriving DecidableEq

structure Export where
  prometheus : Option Prometheus := none
  otel : Option Otel := none
deriving DecidableEq

structure InternalMetrics where
  enabled : Bool := false
  format : Option String := none
deriving DecidableEq

structure Settings where
  seed : Option UInt64 := none
  internalMetrics : InternalMetrics := {}
deriving DecidableEq

/-- A whole document. Iterators keep the order of the document, each name once. -/
structure Document where
  iterators : List (String × Domain) := []
  templates : Templates := {}
  instances : Instances := {}
  metrics : List Metric := []
  exporter : Export := {}
  settings : Settings := {}
deriving DecidableEq

end TelemetrySim.Decl
