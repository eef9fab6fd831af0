import TelemetrySim.Compile
import TelemetrySim.Proofs.Resolution.Reference

/-!
Invariants of a whole configuration. An `Invariant` is a property of clocks, one of sources and one
of values that building keeps; the properties of sources and values may speak of the shared entities
of the kinds before them. `Invariant.of_compile` carries it through the four phases, so it holds of
all shared entities and of the value of every metric.
-/

set_option autoImplicit false
set_option relaxedAutoImplicit false

namespace TelemetrySim.Resolution

open Outcome
open Assoc (All)

abbrev SharedClocks := List (String × Config.Clock)

abbrev SharedSources := List (String × Config.Source)

/-- Properties of the entities of a configuration that building keeps. -/
structure Invariant where
  clock : Config.Clock → Prop
  source : SharedClocks → Config.Source → Prop
  value : SharedClocks → SharedSources → Config.Value → Prop
  keeps_clock : Keeps Scope.buildClock clock
  keeps_source : ∀ s : Scope, s.clocks.All clock → Keeps s.buildSource (source s.clocks.shared)
  keeps_value : ∀ s : Scope, s.clocks.All clock → s.sources.All (source s.clocks.shared) →
    Keeps s.buildValue (value s.clocks.shared s.sources.shared)

namespace Invariant

/-- The invariant holds of all clocks, sources and values that have been resolved. -/
structure HoldsIn (I : Invariant) (s : Scope) : Prop where
  clocks : s.clocks.All I.clock
  sources : s.sources.All (I.source s.clocks.shared)
  values : s.values.All (I.value s.clocks.shared s.sources.shared)

/-- The invariant holds of a configuration. -/
structure Holds (I : Invariant) (config : Config) : Prop where
  clocks : All I.clock config.instances.clocks
  sources : All (I.source config.instances.clocks) config.instances.sources
  values : All (I.value config.instances.clocks config.instances.sources) config.instances.values
  metrics : ∀ m ∈ config.metrics,
    I.value config.instances.clocks config.instances.sources m.value

variable {I : Invariant} {s t : Scope}

/-! ### Clocks, sources and values -/

theorem clockPhase_all {templates instances : List Decl.Clock}
    (h : clockPhase templates instances s = .ok t) : t.clocks.All I.clock := by
  obtain ⟨names, -, h⟩ := bind_eq_ok_iff.mp h
  obtain ⟨clocks, hclocks, h⟩ := bind_eq_ok_iff.mp h
  obtain rfl := Except.ok.inj h
  exact resolveKind_all I.keeps_clock hclocks

theorem sourcePhase_all (hs : s.clocks.All I.clock) {templates instances : List Decl.Source}
    (h : sourcePhase templates instances s = .ok t) :
    t.clocks = s.clocks ∧ t.sources.All (I.source s.clocks.shared) := by
  obtain ⟨names, -, h⟩ := bind_eq_ok_iff.mp h
  obtain ⟨sources, hsources, h⟩ := bind_eq_ok_iff.mp h
  obtain rfl := Except.ok.inj h
  exact ⟨rfl, resolveKind_all (I.keeps_source { s with names := names } hs) hsources⟩

theorem valuePhase_all (hclocks : s.clocks.All I.clock)
    (hsources : s.sources.All (I.source s.clocks.shared)) {templates instances : List Decl.Value}
    (h : valuePhase templates instances s = .ok t) : I.HoldsIn t := by
  obtain ⟨names, -, h⟩ := bind_eq_ok_iff.mp h
  obtain ⟨values, hvalues, h⟩ := bind_eq_ok_iff.mp h
  obtain rfl := Except.ok.inj h
  exact {
    clocks := hclocks
    sources := hsources
    values := resolveKind_all (I.keeps_value { s with names := names } hclocks hsources) hvalues }

/-! ### Metrics -/

theorem HoldsIn.of_resolveValue (hs : I.HoldsIn s) {d : Decl.Value} {trail : Trail}
    {value : Config.Value} (h : s.resolveValue d trail = .ok value) :
    I.value s.clocks.shared s.sources.shared value := by
  obtain ⟨marker, hyields⟩ := Scope.resolveValue_eq_ok_iff.mp h
  exact hyields.all (I.keeps_value s hs.clocks hs.sources) hs.values

theorem HoldsIn.of_valueOr (hs : I.HoldsIn s) {d : Option Decl.Value}
    {inherited : Option Config.Value} {trail : Trail} {value : Config.Value}
    (hinherited : ∀ v, inherited = some v → I.value s.clocks.shared s.sources.shared v)
    (h : s.valueOr d inherited trail = .ok (some value)) :
    I.value s.clocks.shared s.sources.shared value := by
  cases d with
  | none => exact hinherited value (Except.ok.inj h)
  | some d =>
    obtain ⟨v, hwritten, hv⟩ := map_eq_ok_iff.mp h
    obtain rfl := Option.some_inj.mp hv
    exact hs.of_resolveValue hwritten

/-- The value of a template of metrics, if it has one, satisfies the invariant. -/
def BaseHolds (I : Invariant) (s : Scope) (b : MetricBase) : Prop :=
  ∀ v, b.value = some v → I.value s.clocks.shared s.sources.shared v

theorem HoldsIn.keeps_metricTemplate (hs : I.HoldsIn s) :
    Keeps s.buildMetricTemplate (I.BaseHolds s) := by
  intro m base trail r hbase h v hv
  obtain ⟨-, -, hvalue, -⟩ := Scope.buildMetricTemplate_ok h
  rw [hv] at hvalue
  refine hs.of_valueOr (fun v hv ↦ ?_) hvalue
  obtain ⟨b, hb, hinherited⟩ := Option.bind_eq_some_iff.mp hv
  exact hbase b hb v hinherited

theorem HoldsIn.of_resolveMetric (hs : I.HoldsIn s) {templates : List (String × MetricBase)}
    (htemplates : All (I.BaseHolds s) templates) {m : Decl.Metric} {metric : Config.Metric}
    (h : s.resolveMetric templates m = .ok metric) :
    I.value s.clocks.shared s.sources.shared metric.value := by
  obtain ⟨base, trail, hbase, hmetric⟩ := Scope.resolveMetric_ok h
  refine hs.of_valueOr (fun v hv ↦ ?_) hmetric.value
  obtain ⟨b, rfl, hinherited⟩ := Option.bind_eq_some_iff.mp hv
  obtain ⟨-, hnone⟩ | ⟨name, b', -, hfound, hsome⟩ := Scope.metricBase_ok hbase
  · simp at hnone
  · obtain rfl := Option.some_inj.mp hsome
    exact htemplates.of_lookup hfound v hinherited

theorem HoldsIn.of_metricPhase (hs : I.HoldsIn s) {templates : List Decl.MetricTemplate}
    {metrics : List Decl.Metric} {ms : List Config.Metric}
    (h : metricPhase templates metrics s = .ok ms) :
    ∀ m ∈ ms, I.value s.clocks.shared s.sources.shared m.value := by
  obtain ⟨names, -, h⟩ := bind_eq_ok_iff.mp h
  obtain ⟨bases, hbases, h⟩ := bind_eq_ok_iff.mp h
  have hs' : I.HoldsIn { s with names := names } := ⟨hs.clocks, hs.sources, hs.values⟩
  have htemplates : All (I.BaseHolds s) bases := resolveTemplates_all hs'.keeps_metricTemplate hbases
  refine foldlM_keeps
    (P := fun ms ↦ ∀ m ∈ ms, I.value s.clocks.shared s.sources.shared m.value)
    (fun d _ done next hdone hstep ↦ ?_) (by simp) h
  obtain ⟨metric, hmetric, hstep⟩ := bind_eq_ok_iff.mp hstep
  have hvalue := hs'.of_resolveMetric htemplates hmetric
  split at hstep
  · simp [fails] at hstep
  · obtain rfl := Except.ok.inj hstep
    intro m hm
    rcases List.mem_append.mp hm with hm | hm
    · exact hdone m hm
    · obtain rfl := List.mem_singleton.mp hm
      exact hvalue

/-! ### Configurations -/

/-- What building keeps holds throughout a configuration. -/
theorem of_resolve (I : Invariant) {d : Decl.Document} {config : Config}
    (h : Config.resolve d = .ok config) : I.Holds config := by
  obtain ⟨s, hclocks, h⟩ := bind_eq_ok_iff.mp h
  obtain ⟨t, hsources, h⟩ := bind_eq_ok_iff.mp h
  obtain ⟨u, hvalues, h⟩ := bind_eq_ok_iff.mp h
  obtain ⟨metrics, hmetrics, h⟩ := bind_eq_ok_iff.mp h
  obtain ⟨exporter, -, h⟩ := bind_eq_ok_iff.mp h
  obtain ⟨settings, -, h⟩ := bind_eq_ok_iff.mp h
  obtain rfl := Except.ok.inj h
  have hs : s.clocks.All I.clock := clockPhase_all hclocks
  obtain ⟨hkept, ht⟩ := sourcePhase_all hs hsources
  rw [← hkept] at hs ht
  have hu : I.HoldsIn u := valuePhase_all hs ht hvalues
  exact {
    clocks := hu.clocks.shared
    sources := hu.sources.shared
    values := hu.values.shared
    metrics := hu.of_metricPhase hmetrics }

/-- Expansion changes the document, not what resolving it guarantees. -/
theorem of_compile (I : Invariant) {d : Decl.Document} {config : Config}
    (h : d.compile = .ok config) : I.Holds config := by
  obtain ⟨expanded, -, h⟩ := bind_eq_ok_iff.mp h
  exact I.of_resolve (mapError_eq_ok_iff.mp h)

end Invariant

end TelemetrySim.Resolution
