import TelemetrySim.Config.Export
import TelemetrySim.Config.Settings
import TelemetrySim.Resolution.Metric

/-!
Resolving a whole document, in four phases: clocks, sources, values and metrics. A phase claims the
names of its kind and then resolves its templates and its instances, so a declaration reaches
entities of earlier kinds and templates of its own. Export and settings come last.
-/

set_option autoImplicit false
set_option relaxedAutoImplicit false

namespace TelemetrySim

/-- A configuration in which every reference is resolved. -/
structure Config where
  instances : Config.Instances
  metrics : List Config.Metric
  exporter : Config.Export
  settings : Config.Settings
deriving DecidableEq

namespace Resolution

/-- Claims the names of one kind, templates first. -/
def register {δ : Type} [Declared δ] (kind : EntityKind) (templates instances : List δ)
    (ns : Namespace) : Resolved Namespace := do
  let ns ← registerAll ⟨kind, .template⟩ templates ns
  registerAll ⟨kind, .shared⟩ instances ns

def clockPhase (templates instances : List Decl.Clock) (s : Scope) : Resolved Scope := do
  let names ← register .clock templates instances s.names
  let clocks ← resolveKind names .clock Scope.buildClock templates instances
  pure { s with names := names, clocks := clocks }

def sourcePhase (templates instances : List Decl.Source) (s : Scope) : Resolved Scope := do
  let names ← register .source templates instances s.names
  let s := { s with names := names }
  let sources ← resolveKind names .source s.buildSource templates instances
  pure { s with sources := sources }

def valuePhase (templates instances : List Decl.Value) (s : Scope) : Resolved Scope := do
  let names ← register .value templates instances s.names
  let s := { s with names := names }
  let values ← resolveKind names .value s.buildValue templates instances
  pure { s with values := values }

def metricPhase (templates : List Decl.MetricTemplate) (metrics : List Decl.Metric) (s : Scope) :
    Resolved (List Config.Metric) := do
  let names ← register .metric templates [] s.names
  let s := { s with names := names }
  let templates ← resolveTemplates names .metric s.buildMetricTemplate templates
  s.resolveMetrics templates metrics

end Resolution

open Resolution in
/-- Resolves an expanded document. -/
def Config.resolve (d : Decl.Document) : Resolved Config := do
  let s ← clockPhase d.templates.clocks d.instances.clocks {}
  let s ← sourcePhase d.templates.sources d.instances.sources s
  let s ← valuePhase d.templates.values d.instances.values s
  let metrics ← metricPhase d.templates.metrics d.metrics s
  let exporter ← Config.Export.resolve d.exporter
  let settings ← Config.Settings.resolve d.settings
  pure {
    instances := ⟨s.clocks.shared, s.sources.shared, s.values.shared⟩
    metrics := metrics
    exporter := exporter
    settings := settings }

end TelemetrySim
