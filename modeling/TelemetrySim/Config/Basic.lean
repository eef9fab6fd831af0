import TelemetrySim.Duration

/-!
Resolved declarations. Every mandatory field is there and nothing refers to a template any more. A
marker beside a clock or source names the shared object that it is a copy of.
-/

set_option autoImplicit false
set_option relaxedAutoImplicit false

namespace TelemetrySim.Config

structure Clock where
  kind : String
  interval : Duration
deriving DecidableEq

structure Source where
  kind : String := ""
  clock : Option Clock := none
  /-- The shared clock that `clock` was taken from. -/
  clockRef : Option String := none
  min : Int64 := 0
  max : Int64 := 0
deriving DecidableEq

structure Transform where
  kind : String
deriving DecidableEq

structure Reset where
  kind : String
  value : Int64
deriving DecidableEq

structure Value where
  source : Source := {}
  /-- The shared source that `source` was taken from. -/
  sourceRef : Option String := none
  /-- A clock for this value alone, in place of the clock of its source. -/
  clock : Option Clock := none
  clockRef : Option String := none
  transforms : List Transform := []
  reset : Option Reset := none
deriving DecidableEq

/-- The clock that drives the value, with its marker: its own, or else that of its source. -/
def Value.effectiveClock (v : Value) : Option (Clock × Option String) :=
  match v.clock with
  | some c => some (c, v.clockRef)
  | none => v.source.clock.map fun c ↦ (c, v.source.clockRef)

theorem Value.effectiveClock_eq_some_iff {v : Value} {c : Clock} {marker : Option String} :
    v.effectiveClock = some (c, marker) ↔
      v.clock = some c ∧ v.clockRef = marker ∨
        v.clock = none ∧ v.source.clock = some c ∧ v.source.clockRef = marker := by
  cases h : v.clock with
  | some own => simp [effectiveClock, h]
  | none =>
    simp only [effectiveClock, h, Option.map_eq_some_iff, Prod.mk.injEq, reduceCtorEq, false_and,
      true_and, false_or]
    constructor
    · rintro ⟨k, hk, rfl, hmarker⟩
      exact ⟨hk, hmarker⟩
    · rintro ⟨hk, hmarker⟩
      exact ⟨c, hk, rfl, hmarker⟩

inductive MetricKind where
  | counter | gauge
deriving DecidableEq

def MetricKind.label : MetricKind → String
  | counter => "counter"
  | gauge => "gauge"

def MetricKind.named (s : String) : Option MetricKind :=
  if s = "counter" then some counter else if s = "gauge" then some gauge else none

/-- The name of a metric in each exporter. -/
structure Names where
  prometheus : String
  otel : String
deriving DecidableEq

/-- Attributes sorted by key. -/
abbrev Attributes := List (String × String)

structure Metric where
  names : Names
  kind : MetricKind
  description : String
  value : Value
  attributes : Attributes
deriving DecidableEq

/-- The name that messages and outputs show. -/
def Metric.displayName (m : Metric) : String := m.names.prometheus

/-- Shared objects by name, in the order of their declarations. -/
structure Instances where
  clocks : List (String × Clock) := []
  sources : List (String × Source) := []
  values : List (String × Value) := []
deriving DecidableEq

end TelemetrySim.Config
