import TelemetrySim.Resolution.Reference
import TelemetrySim.Text.Ident

/-!
Resolving metrics and their templates. A written field replaces that of the template; value and
attributes are replaced as a whole. No two metrics have the same name and attributes.
-/

set_option autoImplicit false
set_option relaxedAutoImplicit false

namespace TelemetrySim

/-- A resolved template of metrics, of which only the type is mandatory. -/
structure MetricBase where
  kind : Config.MetricKind
  description : Option String := none
  value : Option Config.Value := none
  attributes : Option Config.Attributes := none

namespace Scope

/-- An identifier that does not start with two underscores. -/
def isAttributeName (key : String) : Bool := Text.isIdent key && !key.startsWith "__"

def buildAttributes (a : Decl.Attributes) (trail : Trail) : Resolved Config.Attributes :=
  match a.find? fun (key, _) ↦ !isAttributeName key with
  | some (key, _) => fails trail (.invalidAttribute key)
  | none => pure (Assoc.sorted a)

/-- The type of a metric: the written one, or else that of the template. -/
def metricKind (written : Option String) (base : Option MetricBase) (trail : Trail) :
    Resolved Config.MetricKind :=
  match written with
  | some text => orFails trail (.invalidMetricType text) (Config.MetricKind.named text)
  | none => orFails trail .metricTypeRequired (base.map (·.kind))

/-- The value of a reference, or the inherited one if no reference is written. -/
def valueOr (s : Scope) (v : Option Decl.Value) (inherited : Option Config.Value) (trail : Trail) :
    Resolved (Option Config.Value) :=
  match v with
  | none => pure inherited
  | some v => some <$> s.resolveValue v trail

/-- The written attributes, or the inherited ones if none are written. -/
def attributesOr (a : Option Decl.Attributes) (inherited : Option Config.Attributes)
    (trail : Trail) : Resolved (Option Config.Attributes) :=
  match a with
  | none => pure inherited
  | some a => some <$> buildAttributes a trail

def buildMetricTemplate (s : Scope) (m : Decl.MetricTemplate) (base : Option MetricBase)
    (trail : Trail) : Resolved MetricBase := do
  let kind ← metricKind m.kind base trail
  let value ← s.valueOr m.value (base.bind (·.value)) trail
  let attributes ← attributesOr m.attributes (base.bind (·.attributes)) trail
  pure ⟨kind, m.description.or (base.bind (·.description)), value, attributes⟩

/-- The template of a metric, and the trail inside it. -/
def metricBase (s : Scope) (templates : List (String × MetricBase)) (name : Option String)
    (trail : Trail) : Resolved (Option MetricBase × Trail) :=
  match name with
  | none => pure (none, trail)
  | some name => do
    let base ← orFails trail (s.names.missing (templateEntity .metric) name)
      (templates.lookup name)
    pure (some base, (templateEntity .metric).frame name :: trail)

def metricTrail (m : Decl.Metric) : Trail := [⟨"metric", m.name.prometheus⟩]

def resolveMetric (s : Scope) (templates : List (String × MetricBase)) (m : Decl.Metric) :
    Resolved Config.Metric := do
  let (base, trail) ← s.metricBase templates m.templateName (metricTrail m)
  let kind ← metricKind m.kind base trail
  let description ← orFails trail .descriptionRequired
    (Decl.nonEmpty (m.description.or (base.bind (·.description))))
  let value ← s.valueOr m.value (base.bind (·.value)) trail
  let value ← orFails trail .valueRequired value
  let attributes ← attributesOr m.attributes (base.bind (·.attributes)) trail
  pure {
    names := ⟨m.name.prometheus, m.name.otel⟩
    kind := kind
    description := description
    value := value
    attributes := attributes.getD [] }

/-- The index of the metric that has the same series. -/
def sameSeries (done : List Config.Metric) (m : Config.Metric) : Option Nat :=
  done.findIdx? fun other ↦
    other.names.prometheus == m.names.prometheus && other.attributes == m.attributes

/-- Resolves the metrics in turn. -/
def resolveMetrics (s : Scope) (templates : List (String × MetricBase)) (ms : List Decl.Metric) :
    Resolved (List Config.Metric) :=
  ms.foldlM (fun done m ↦ do
    let metric ← s.resolveMetric templates m
    match sameSeries done metric with
    | some previous => fails (metricTrail m) (.duplicateSeries previous)
    | none => pure (done ++ [metric])) []

end Scope

end TelemetrySim
