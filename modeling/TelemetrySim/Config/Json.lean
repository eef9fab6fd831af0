import TelemetrySim.Json.Basic
import TelemetrySim.Resolution.Document

/-!
The JSON form of a resolved configuration. Fields come in a fixed order and are left out when there
is nothing to say; durations are written as text.
-/

set_option autoImplicit false
set_option relaxedAutoImplicit false

namespace TelemetrySim

namespace Config

def int64Json (i : Int64) : Json := .int i.toInt

def durationJson (d : Duration) : Json := .str d.text

/-- A table of texts as an object. -/
def textsJson (l : List (String × String)) : Json := .obj (l.map fun (k, v) ↦ (k, .str v))

def Clock.toJson (c : Clock) : Json :=
  .obj [("type", .str c.kind), ("interval", durationJson c.interval)]

def Source.toJson (s : Source) : Json :=
  .obj ([("type", .str s.kind)] ++ Json.optional "clock" Clock.toJson s.clock ++
    Json.optional "clock_ref" .str s.clockRef ++
    [("min", int64Json s.min), ("max", int64Json s.max)])

def Transform.toJson (t : Transform) : Json := .obj [("type", .str t.kind)]

def Reset.toJson (r : Reset) : Json := .obj [("type", .str r.kind), ("value", int64Json r.value)]

/-- A list that is left out when it is empty. -/
def transformsField (ts : List Transform) : List (String × Json) :=
  if ts.isEmpty then [] else [("transforms", .arr (ts.map Transform.toJson))]

def Value.toJson (v : Value) : Json :=
  .obj ([("source", v.source.toJson)] ++ Json.optional "source_ref" .str v.sourceRef ++
    Json.optional "clock" Clock.toJson v.clock ++ Json.optional "clock_ref" .str v.clockRef ++
    transformsField v.transforms ++ Json.optional "reset" Reset.toJson v.reset)

def Names.toJson (n : Names) : Json :=
  .obj [("prometheus", .str n.prometheus), ("otel", .str n.otel)]

/-- The fields of a metric. -/
def Metric.fields (m : Metric) : List (String × Json) := [
  ("names", m.names.toJson),
  ("type", .str m.kind.label),
  ("description", .str m.description),
  ("value", m.value.toJson),
  ("attributes", textsJson m.attributes)]

def Metric.toJson (m : Metric) : Json := .obj m.fields

/-- Named objects in their order. -/
def namedJson {α : Type} (f : α → Json) (l : List (String × α)) : Json :=
  .obj (l.map fun (k, a) ↦ (k, f a))

def Instances.toJson (i : Instances) : Json := .obj [
  ("clocks", namedJson Clock.toJson i.clocks),
  ("sources", namedJson Source.toJson i.sources),
  ("values", namedJson Value.toJson i.values)]

/-- The fields of an exporter, its mode first. -/
def Export.fields : Export → List (String × Json)
  | pull p => [("mode", .str "pull"), ("port", .int p.port.toNat), ("path", .str p.path)]
  | push p => [
    ("mode", .str "push"),
    ("transport", .str p.transport.label),
    ("host", .str p.host),
    ("port", .int p.port.toNat),
    ("read_interval", durationJson p.readInterval),
    ("push_interval", durationJson p.pushInterval),
    ("resource", textsJson p.resource),
    ("headers", textsJson p.headers)]

def Export.toJson (e : Export) : Json := .obj e.fields

def Settings.toJson (s : Settings) : Json :=
  .obj (Json.optional "seed" (fun n ↦ .int n.toNat) s.seed ++
    [("internal_metrics", .obj [
      ("enabled", .bool s.internalMetrics.enabled),
      ("format", .str s.internalMetrics.format.label)])])

end Config

def Config.toJson (c : Config) : Json := .obj [
  ("instances", c.instances.toJson),
  ("metrics", .arr (c.metrics.map Config.Metric.toJson)),
  ("export", c.exporter.toJson),
  ("settings", c.settings.toJson)]

end TelemetrySim
