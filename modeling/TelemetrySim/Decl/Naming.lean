import TelemetrySim.Decl.Basic
import TelemetrySim.Decl.Section
import TelemetrySim.Text.Quoted

/-!
Checks on a document that need no look-up: there is a metric, every declaration has a name, and no
reference has one. The checks run in a fixed order and the first flaw is reported.
-/

set_option autoImplicit false
set_option relaxedAutoImplicit false

namespace TelemetrySim.Decl

/-- What a reference can refer to. -/
inductive Target where
  | clock | source | value
deriving DecidableEq

def Target.label : Target → String
  | .clock => "clock"
  | .source => "source"
  | .value => "value"

/-- The declaration that holds a reference. -/
inductive Owner where
  | metric (name : String)
  | entry (s : Section) (index : Nat)
deriving DecidableEq

def Owner.label : Owner → String
  | .metric name => "metric " ++ Text.quoted name
  | .entry s index => s.label ++ "[" ++ toString index ++ "]"

inductive Flaw where
  | noMetrics
  | unnamedMetric (index : Nat)
  | unnamed (s : Section) (index : Nat)
  | namedReference (owner : Owner) (target : Target)
deriving DecidableEq

def Flaw.message : Flaw → String
  | noMetrics => "at least one metric must be defined"
  | unnamedMetric index => "metric at index " ++ toString index ++ ": name cannot be empty"
  | unnamed s index => (Owner.entry s index).label ++ ": name cannot be empty"
  | namedReference owner target =>
    owner.label ++ ": " ++ target.label ++ " reference cannot declare a name"

abbrev Check := Except Flaw Unit

/-- Runs a check on what is written. -/
def checkOption {α : Type} (f : α → Check) : Option α → Check
  | none => pure ()
  | some a => f a

/-- Runs a check on each element with its index, from `i` on. -/
def checkEach {α : Type} (f : Nat → α → Check) : Nat → List α → Check
  | _, [] => pure ()
  | i, a :: rest => do
    f i a
    checkEach f (i + 1) rest

def checkUnnamed (owner : Owner) (target : Target) (name : Option String) : Check :=
  if name.isSome then .error (.namedReference owner target) else pure ()

def Clock.checkReference (owner : Owner) (c : Clock) : Check := checkUnnamed owner .clock c.name

def Source.checkReference (owner : Owner) (s : Source) : Check := do
  checkUnnamed owner .source s.name
  checkOption (Clock.checkReference owner) s.clock

def Value.checkParts (owner : Owner) (v : Value) : Check := do
  checkOption (Source.checkReference owner) v.source
  checkOption (Clock.checkReference owner) v.clock

def Value.checkReference (owner : Owner) (v : Value) : Check := do
  checkUnnamed owner .value v.name
  v.checkParts owner

/-- A declaration has a name that says something. -/
def checkNamed (s : Section) (index : Nat) (name : Option String) : Check :=
  if (nonEmpty name).isSome then pure () else .error (.unnamed s index)

def Metric.check (index : Nat) (m : Metric) : Check := do
  if m.name.prometheus = "" then throw (.unnamedMetric index)
  checkOption (Value.checkReference (.metric m.name.prometheus)) m.value

def Clock.check (s : Section) (index : Nat) (c : Clock) : Check := checkNamed s index c.name

def Source.check (s : Section) (index : Nat) (x : Source) : Check := do
  checkNamed s index x.name
  checkOption (Clock.checkReference (.entry s index)) x.clock

def Value.check (s : Section) (index : Nat) (v : Value) : Check := do
  checkNamed s index v.name
  v.checkParts (.entry s index)

def MetricTemplate.check (index : Nat) (m : MetricTemplate) : Check := do
  checkNamed .templateMetrics index m.name
  checkOption (Value.checkReference (.entry .templateMetrics index)) m.value

def Document.check (d : Document) : Check := do
  if d.metrics.isEmpty then throw .noMetrics
  checkEach Metric.check 0 d.metrics
  checkEach (Clock.check .templateClocks) 0 d.templates.clocks
  checkEach (Clock.check .instanceClocks) 0 d.instances.clocks
  checkEach (Source.check .templateSources) 0 d.templates.sources
  checkEach (Source.check .instanceSources) 0 d.instances.sources
  checkEach (Value.check .templateValues) 0 d.templates.values
  checkEach (Value.check .instanceValues) 0 d.instances.values
  checkEach MetricTemplate.check 0 d.templates.metrics

end TelemetrySim.Decl
