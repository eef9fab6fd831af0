import TelemetrySim.Exposition.Text
import TelemetrySim.Live.Generator

/-!
The metrics as exporters see them: each one with the value behind it, in the order of the
configuration.
-/

set_option autoImplicit false
set_option relaxedAutoImplicit false

namespace TelemetrySim.Exposition

/-- A metric and the value behind it. -/
structure Series where
  names : Config.Names
  kind : Config.MetricKind
  description : String
  attributes : Config.Attributes
  value : Live.ValueId
deriving DecidableEq

/-- A metric that the generator has no value for. -/
structure MissingValue where
  index : Nat
  metric : String
deriving DecidableEq

def MissingValue.message (e : MissingValue) : String :=
  "Metric " ++ toString e.index ++ " (" ++ e.metric ++ ") has no value in the generator"

/-- Takes the reading of a series. -/
def Series.read {ρ : Type} (s : Series) (g : Live.Generator (Live.Circuit ρ)) :
    Int64 × Live.Generator (Live.Circuit ρ) :=
  (g.readValue s.value).getD (0, g)

/-- All metrics of a configuration. -/
abbrev Registry := List Series

namespace Registry

variable {ρ : Type}

/-- Pairs metrics, the first of which has a number, with the values of the same numbers. -/
def ofMetricsFrom {σ : Type} (g : Live.Generator σ) :
    Nat → List Config.Metric → Except MissingValue Registry
  | _, [] => .ok []
  | index, m :: rest => do
    match g.handles? index with
    | none => .error ⟨index, m.displayName⟩
    | some h =>
      let more ← ofMetricsFrom g (index + 1) rest
      pure (⟨m.names, m.kind, m.description, m.attributes, h.value⟩ :: more)

def ofMetrics {σ : Type} (metrics : List Config.Metric) (g : Live.Generator σ) :
    Except MissingValue Registry :=
  ofMetricsFrom g 0 metrics

/-- Takes the reading of every metric once, in their order. -/
def readAll : Registry → Live.Generator (Live.Circuit ρ) →
    List (Series × Int64) × Live.Generator (Live.Circuit ρ)
  | [], g => ([], g)
  | s :: rest, g =>
    let (x, g) := s.read g
    let (readings, g) := readAll rest g
    ((s, x) :: readings, g)

/-- A series with a reading, under the name that Prometheus sees. -/
def sample (r : Series × Int64) : Sample where
  name := r.1.names.prometheus
  kind := r.1.kind
  description := r.1.description
  attributes := r.1.attributes
  reading := r.2

/-- Takes the reading of every metric once, in their order, and puts each one into the family of its
name. -/
def gather : Registry → List Family → Live.Generator (Live.Circuit ρ) →
    List Family × Live.Generator (Live.Circuit ρ)
  | [], fs, g => (fs, g)
  | s :: rest, fs, g =>
    let (x, g) := s.read g
    gather rest (addSample (sample (s, x)) fs) g

/-- Takes all readings and writes them as text. -/
def render (r : Registry) (g : Live.Generator (Live.Circuit ρ)) :
    String × Live.Generator (Live.Circuit ρ) :=
  let (fs, g) := r.gather [] g
  (String.join (fs.map Family.text), g)

end Registry

/-- The fields of a series, for inspection. -/
def Series.summary (s : Series) : String :=
  let kind := match s.kind with
    | .counter => "Counter"
    | .gauge => "Gauge"
  let attributes := s.attributes.map fun (k, v) ↦ Text.quoted k ++ ": " ++ Text.quoted v
  "MetricDescriptor \x7b prometheus_name: " ++ Text.quoted s.names.prometheus ++
    ", otel_name: " ++ Text.quoted s.names.otel ++ ", kind: " ++ kind ++
    ", attributes: \x7b" ++ String.intercalate ", " attributes ++ "\x7d \x7d"

end TelemetrySim.Exposition
