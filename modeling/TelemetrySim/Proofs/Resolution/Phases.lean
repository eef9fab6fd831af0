import TelemetrySim.Compile
import TelemetrySim.Proofs.Resolution.Extension

/-!
The four phases seen from their end. After a successful run there is one scope in which every kind
is resolved (`Settled`): each phase leaves the tables of the earlier kinds alone, and the names that
are claimed later matter for errors only.
-/

set_option autoImplicit false
set_option relaxedAutoImplicit false

namespace TelemetrySim

open Outcome
open Declared (name base shared)

namespace Resolution

variable {s t : Scope}

theorem clockPhase_ok (hs : s.names.claimed.Nodup) {templates instances : List Decl.Clock}
    (h : clockPhase templates instances s = .ok t) :
    t.names.claimed.Nodup ∧
      ResolvedKind .clock Scope.buildClock templates instances t.clocks := by
  obtain ⟨names, hnames, h⟩ := bind_eq_ok_iff.mp h
  obtain ⟨clocks, hclocks, h⟩ := bind_eq_ok_iff.mp h
  obtain rfl := Except.ok.inj h
  obtain ⟨hclaimed, hnodup⟩ := claimed_register hs hnames
  exact ⟨hnodup, resolveKind_ok (hclaimed ▸ hnodup).of_append_right hclocks⟩

theorem sourcePhase_ok (hs : s.names.claimed.Nodup) {templates instances : List Decl.Source}
    (h : sourcePhase templates instances s = .ok t) :
    t.names.claimed.Nodup ∧ t.clocks = s.clocks ∧
      ResolvedKind .source t.buildSource templates instances t.sources := by
  obtain ⟨names, hnames, h⟩ := bind_eq_ok_iff.mp h
  obtain ⟨sources, hsources, h⟩ := bind_eq_ok_iff.mp h
  obtain rfl := Except.ok.inj h
  obtain ⟨hclaimed, hnodup⟩ := claimed_register hs hnames
  refine ⟨hnodup, rfl, ?_⟩
  refine (resolveKind_ok (hclaimed ▸ hnodup).of_append_right hsources).mono fun _ _ _ ↦ ?_
  exact Scope.buildSource_refines (.refl _)

theorem valuePhase_ok (hs : s.names.claimed.Nodup) {templates instances : List Decl.Value}
    (h : valuePhase templates instances s = .ok t) :
    t.names.claimed.Nodup ∧ t.clocks = s.clocks ∧ t.sources = s.sources ∧
      ResolvedKind .value t.buildValue templates instances t.values := by
  obtain ⟨names, hnames, h⟩ := bind_eq_ok_iff.mp h
  obtain ⟨values, hvalues, h⟩ := bind_eq_ok_iff.mp h
  obtain rfl := Except.ok.inj h
  obtain ⟨hclaimed, hnodup⟩ := claimed_register hs hnames
  refine ⟨hnodup, rfl, rfl, ?_⟩
  refine (resolveKind_ok (hclaimed ▸ hnodup).of_append_right hvalues).mono fun _ _ _ ↦ ?_
  exact Scope.buildValue_refines (.refl _) (.refl _)

theorem resolveMetrics_ok {bases : List (String × MetricBase)} {ms : List Decl.Metric}
    {metrics : List Config.Metric} (h : s.resolveMetrics bases ms = .ok metrics) :
    List.Forall₂ (fun m metric ↦ s.resolveMetric bases m = .ok metric) ms metrics := by
  obtain ⟨others, hothers, rfl⟩ :
      ∃ others, List.Forall₂ (fun m metric ↦ s.resolveMetric bases m = .ok metric) ms others ∧
        [] ++ others = metrics := by
    refine Pairing.foldlM_concat (fun m done next hstep ↦ ?_) h
    obtain ⟨metric, hmetric, hstep⟩ := bind_eq_ok_iff.mp hstep
    split at hstep
    · simp [fails] at hstep
    · exact ⟨metric, hmetric, Except.ok.inj hstep⟩
  exact hothers

theorem metricPhase_ok (hs : s.names.claimed.Nodup) {templates : List Decl.MetricTemplate}
    {ms : List Decl.Metric} {metrics : List Config.Metric}
    (h : metricPhase templates ms s = .ok metrics) :
    (templates.map name).Nodup ∧ ∃ bases,
      Underway .metric s.buildMetricTemplate templates [] bases ∧
        List.Forall₂ (fun m metric ↦ s.resolveMetric bases m = .ok metric) ms metrics := by
  obtain ⟨names, hnames, h⟩ := bind_eq_ok_iff.mp h
  obtain ⟨bases, hbases, h⟩ := bind_eq_ok_iff.mp h
  obtain ⟨hclaimed, hnodup⟩ := claimed_register hs hnames
  have htemplates : (templates.map name).Nodup :=
    (hclaimed ▸ hnodup).of_append_right.of_append_left
  have hwithin : Scope.Within { s with names := names } s :=
    ⟨.refl _, .refl _, .refl _⟩
  refine ⟨htemplates, bases, ?_, ?_⟩
  · refine (resolveTemplates_ok htemplates hbases).mono fun _ _ _ ↦ ?_
    exact Scope.buildMetricTemplate_refines hwithin
  · refine (resolveMetrics_ok h).imp fun m metric hmetric ↦ ?_
    exact Scope.resolveMetric_refines hwithin (fun _ _ hb ↦ hb) metric hmetric

/-- A run that succeeds goes through all phases; export and settings are resolved by themselves. -/
theorem resolve_ok {x : Decl.Document} {config : Config} (h : Config.resolve x = .ok config) :
    ∃ s t u, clockPhase x.templates.clocks x.instances.clocks {} = .ok s ∧
      sourcePhase x.templates.sources x.instances.sources s = .ok t ∧
      valuePhase x.templates.values x.instances.values t = .ok u ∧
      metricPhase x.templates.metrics x.metrics u = .ok config.metrics ∧
      Config.Export.resolve x.exporter = .ok config.exporter ∧
      Config.Settings.resolve x.settings = .ok config.settings ∧
      config.instances = ⟨u.clocks.shared, u.sources.shared, u.values.shared⟩ := by
  obtain ⟨s, hclocks, h⟩ := bind_eq_ok_iff.mp h
  obtain ⟨t, hsources, h⟩ := bind_eq_ok_iff.mp h
  obtain ⟨u, hvalues, h⟩ := bind_eq_ok_iff.mp h
  obtain ⟨metrics, hmetrics, h⟩ := bind_eq_ok_iff.mp h
  obtain ⟨exporter, hexporter, h⟩ := bind_eq_ok_iff.mp h
  obtain ⟨settings, hsettings, h⟩ := bind_eq_ok_iff.mp h
  obtain rfl := Except.ok.inj h
  exact ⟨s, t, u, hclocks, hsources, hvalues, hmetrics, hexporter, hsettings, rfl⟩

/-- What is known of a scope and of the templates of metrics when a document has been resolved. -/
structure Settled (x : Decl.Document) (config : Config) (s : Scope)
    (bases : List (String × MetricBase)) : Prop where
  clocks : ResolvedKind .clock Scope.buildClock x.templates.clocks x.instances.clocks s.clocks
  sources : ResolvedKind .source s.buildSource x.templates.sources x.instances.sources s.sources
  values : ResolvedKind .value s.buildValue x.templates.values x.instances.values s.values
  metricNames : (x.templates.metrics.map name).Nodup
  metricBases : Underway .metric s.buildMetricTemplate x.templates.metrics [] bases
  metrics : List.Forall₂ (fun m metric ↦ s.resolveMetric bases m = .ok metric) x.metrics
    config.metrics
  instances : config.instances = ⟨s.clocks.shared, s.sources.shared, s.values.shared⟩

theorem settled_of_resolve {x : Decl.Document} {config : Config}
    (h : Config.resolve x = .ok config) : ∃ s bases, Settled x config s bases := by
  obtain ⟨s, t, u, hclocks, hsources, hvalues, hmetrics, -, -, hinstances⟩ := resolve_ok h
  obtain ⟨hs, hresolvedClocks⟩ := clockPhase_ok (by simp [Namespace.claimed, Assoc.keys]) hclocks
  obtain ⟨ht, hkept, hresolvedSources⟩ := sourcePhase_ok hs hsources
  obtain ⟨hu, hkeptClocks, hkeptSources, hresolvedValues⟩ := valuePhase_ok ht hvalues
  obtain ⟨hnames, bases, hbases, hall⟩ := metricPhase_ok hu hmetrics
  rw [← hkept, ← hkeptClocks] at hresolvedClocks
  have hsame : ∀ d b trail, Refines (t.buildSource d b trail) (u.buildSource d b trail) :=
    fun _ _ _ ↦ Scope.buildSource_refines (hkeptClocks ▸ .refl _)
  exact ⟨u, bases, {
    clocks := hresolvedClocks
    sources := hkeptSources ▸ hresolvedSources.mono hsame
    values := hresolvedValues
    metricNames := hnames
    metricBases := hbases
    metrics := hall
    instances := hinstances }⟩

end Resolution

/-- A compiled document was expanded and then resolved. -/
theorem Decl.Document.compile_eq_ok_iff {d : Decl.Document} {config : Config} :
    d.compile = .ok config ↔ ∃ x, d.expand = .ok x ∧ Config.resolve x = .ok config := by
  rw [compile, bind_eq_ok_iff]
  simp only [mapError_eq_ok_iff, resolved]

end TelemetrySim
