import TelemetrySim.Decl.Basic
import TelemetrySim.Resolution.Problem

/-!
Settings beside the metrics: the seed of the random draws and the program's own metrics.
-/

set_option autoImplicit false
set_option relaxedAutoImplicit false

namespace TelemetrySim.Config

inductive MetricsFormat where
  | prometheus | otel
deriving DecidableEq

def MetricsFormat.label : MetricsFormat → String
  | prometheus => "prometheus"
  | otel => "otel"

structure InternalMetrics where
  enabled : Bool
  format : MetricsFormat
deriving DecidableEq

structure Settings where
  seed : Option UInt64
  internalMetrics : InternalMetrics
deriving DecidableEq

def Settings.resolveFormat : Option String → Resolved MetricsFormat
  | none => pure .prometheus
  | some "prometheus" => pure .prometheus
  | some "otel" => pure .otel
  | some other => fails [⟨"settings", "internal_metrics"⟩] (.invalidFormat other)

def Settings.resolve (d : Decl.Settings) : Resolved Settings := do
  let format ← resolveFormat d.internalMetrics.format
  pure ⟨d.seed, ⟨d.internalMetrics.enabled, format⟩⟩

end TelemetrySim.Config
