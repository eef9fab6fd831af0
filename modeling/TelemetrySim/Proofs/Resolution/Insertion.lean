import TelemetrySim.Proofs.Expansion
import TelemetrySim.Proofs.Resolution.Reordering

/-!
Adding declarations is conservative. A document with further declarations expands to one with further
declarations (`ExpandsTo.extends`). If both resolve, every table of the first lies within that of the
second (`ResolvedKind.within`, kind after kind), and the metrics, which can see nothing else, come
out the same. That the longer document resolves has to be assumed: a declaration that is added can
be wrong or take a name twice.
-/

set_option autoImplicit false
set_option relaxedAutoImplicit false

namespace TelemetrySim

open Outcome Resolution

/-! ### Documents -/

/-- The same document, with further declarations inserted anywhere into its lists. -/
structure Decl.Document.Extends (d d' : Decl.Document) : Prop where
  iterators : d'.iterators = d.iterators
  templateClocks : d.templates.clocks.Sublist d'.templates.clocks
  templateSources : d.templates.sources.Sublist d'.templates.sources
  templateValues : d.templates.values.Sublist d'.templates.values
  templateMetrics : d.templates.metrics.Sublist d'.templates.metrics
  instanceClocks : d.instances.clocks.Sublist d'.instances.clocks
  instanceSources : d.instances.sources.Sublist d'.instances.sources
  instanceValues : d.instances.values.Sublist d'.instances.values
  metrics : d'.metrics = d.metrics
  exporter : d'.exporter = d.exporter
  settings : d'.settings = d.settings

namespace Decl.Document

variable {d d' x x' : Decl.Document} {r : Registry}

open Expansion in
theorem ExpandsTo.extends (h : ExpandsTo r d x) (h' : ExpandsTo r d' x') (hd : d.Extends d') :
    x.Extends x' where
  iterators := by rw [h'.iterators, hd.iterators, h.iterators]
  templateClocks := expandEntries_sublist hd.templateClocks h.templateClocks h'.templateClocks
  templateSources := expandEntries_sublist hd.templateSources h.templateSources h'.templateSources
  templateValues := expandEntries_sublist hd.templateValues h.templateValues h'.templateValues
  templateMetrics := expandEntries_sublist hd.templateMetrics h.templateMetrics h'.templateMetrics
  instanceClocks := expandEntries_sublist hd.instanceClocks h.instanceClocks h'.instanceClocks
  instanceSources := expandEntries_sublist hd.instanceSources h.instanceSources h'.instanceSources
  instanceValues := expandEntries_sublist hd.instanceValues h.instanceValues h'.instanceValues
  metrics := by
    have hmetrics := h'.metrics
    rw [hd.metrics, h.metrics] at hmetrics
    exact (Except.ok.inj hmetrics).symm
  exporter := by rw [h'.exporter, hd.exporter, h.exporter]
  settings := by rw [h'.settings, hd.settings, h.settings]

theorem Extends.expand (hd : d.Extends d') (h : d.expand = .ok x) (h' : d'.expand = .ok x') :
    x.Extends x' := by
  obtain ⟨r, hr, hx⟩ := expand_eq_ok_iff.mp h
  obtain ⟨r', hr', hx'⟩ := expand_eq_ok_iff.mp h'
  rw [hd.iterators, hr] at hr'
  obtain rfl := Except.ok.inj hr'
  exact hx.extends hx' hd

end Decl.Document

/-! ### Resolution -/

namespace Resolution

variable {x x' : Decl.Document} {config config' : Config} {s s' : Scope}
  {bases bases' : List (String × MetricBase)}

theorem Settled.within (h : Settled x config s bases) (h' : Settled x' config' s' bases')
    (hx : x.Extends x') : s.Within s' := by
  have hclocks : s.clocks.Within s'.clocks :=
    h.clocks.within h'.clocks hx.templateClocks.subset hx.instanceClocks.subset
      fun _ _ _ ↦ .refl _
  have hsources : s.sources.Within s'.sources :=
    h.sources.within h'.sources hx.templateSources.subset hx.instanceSources.subset
      fun _ _ _ ↦ Scope.buildSource_refines hclocks
  have hvalues : s.values.Within s'.values :=
    h.values.within h'.values hx.templateValues.subset hx.instanceValues.subset
      fun _ _ _ ↦ Scope.buildValue_refines hclocks hsources
  exact ⟨hclocks, hsources, hvalues⟩

theorem Settled.bases_within (h : Settled x config s bases) (h' : Settled x' config' s' bases')
    (hx : x.Extends x') : Assoc.Within bases bases' := by
  intro n b hlookup
  rw [h.metricBases.lookup_iff h.metricNames] at hlookup
  rw [h'.metricBases.lookup_iff h'.metricNames]
  exact hlookup.mono hx.templateMetrics.subset
    fun _ _ _ ↦ Scope.buildMetricTemplate_refines (h.within h' hx)

theorem Settled.metrics_eq (h : Settled x config s bases) (h' : Settled x' config' s' bases')
    (hx : x.Extends x') : config'.metrics = config.metrics := by
  have hsame : List.Forall₂ (fun m metric ↦ s'.resolveMetric bases' m = .ok metric) x.metrics
      config.metrics :=
    h.metrics.imp fun m metric hmetric ↦
      Scope.resolveMetric_refines (h.within h' hx) (h.bases_within h' hx) metric hmetric
  have hmetrics := Pairing.mapM_eq_ok_iff.mpr h'.metrics
  rw [hx.metrics, Pairing.mapM_eq_ok_iff.mpr hsame] at hmetrics
  exact (Except.ok.inj hmetrics).symm

end Resolution

theorem Config.follows_of_extends {x x' : Decl.Document} {config config' : Config}
    (hx : x.Extends x') (h : Config.resolve x = .ok config)
    (h' : Config.resolve x' = .ok config') : config.Follows config' := by
  obtain ⟨s, bases, hs⟩ := settled_of_resolve h
  obtain ⟨s', bases', hs'⟩ := settled_of_resolve h'
  obtain ⟨-, -, -, -, -, -, -, hexporter, hsettings, -⟩ := resolve_ok h
  obtain ⟨-, -, -, -, -, -, -, hexporter', hsettings', -⟩ := resolve_ok h'
  rw [hx.exporter, hexporter] at hexporter'
  rw [hx.settings, hsettings] at hsettings'
  have hwithin : s.Within s' := hs.within hs' hx
  exact {
    metrics := hs.metrics_eq hs' hx
    exporter := (Except.ok.inj hexporter').symm
    settings := (Except.ok.inj hsettings').symm
    clocks := by rw [hs.instances, hs'.instances]; exact hwithin.clocks.shared
    sources := by rw [hs.instances, hs'.instances]; exact hwithin.sources.shared
    values := by rw [hs.instances, hs'.instances]; exact hwithin.values.shared }

/-- Where both compile, a document with further declarations gives the configuration of the other
one, with further shared entities at most. -/
theorem Decl.Document.Extends.follows {d d' : Decl.Document} {config config' : Config}
    (hd : d.Extends d') (h : d.compile = .ok config) (h' : d'.compile = .ok config') :
    config.Follows config' := by
  obtain ⟨x, hexpand, hresolve⟩ := compile_eq_ok_iff.mp h
  obtain ⟨x', hexpand', hresolve'⟩ := compile_eq_ok_iff.mp h'
  exact Config.follows_of_extends (hd.expand hexpand hexpand') hresolve hresolve'

end TelemetrySim
