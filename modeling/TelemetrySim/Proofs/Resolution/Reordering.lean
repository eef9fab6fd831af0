import TelemetrySim.Proofs.Expansion
import TelemetrySim.Proofs.Resolution.Marker
import TelemetrySim.Proofs.Resolution.Phases

/-!
The order of declarations does not matter. Two documents that differ only in that order are taken
through expansion and through the four phases side by side. A phase that succeeds for the first
succeeds for the second, which has then claimed the same names and resolved the same entities
(`Scope.Follows`); which error is met first when a phase fails is never looked at. As the two
documents can change places, they succeed together and agree.
-/

set_option autoImplicit false
set_option relaxedAutoImplicit false

namespace TelemetrySim

open Outcome
open Declared (name)

/-! ### Documents -/

/-- The same document, with the declarations of each list in any order. -/
structure Decl.Document.Reordered (d d' : Decl.Document) : Prop where
  iterators : d'.iterators = d.iterators
  templateClocks : d.templates.clocks.Perm d'.templates.clocks
  templateSources : d.templates.sources.Perm d'.templates.sources
  templateValues : d.templates.values.Perm d'.templates.values
  templateMetrics : d.templates.metrics.Perm d'.templates.metrics
  instanceClocks : d.instances.clocks.Perm d'.instances.clocks
  instanceSources : d.instances.sources.Perm d'.instances.sources
  instanceValues : d.instances.values.Perm d'.instances.values
  metrics : d'.metrics = d.metrics
  exporter : d'.exporter = d.exporter
  settings : d'.settings = d.settings

namespace Decl.Document

variable {d d' x : Decl.Document} {r : Registry}

theorem Reordered.symm (h : d.Reordered d') : d'.Reordered d where
  iterators := h.iterators.symm
  templateClocks := h.templateClocks.symm
  templateSources := h.templateSources.symm
  templateValues := h.templateValues.symm
  templateMetrics := h.templateMetrics.symm
  instanceClocks := h.instanceClocks.symm
  instanceSources := h.instanceSources.symm
  instanceValues := h.instanceValues.symm
  metrics := h.metrics.symm
  exporter := h.exporter.symm
  settings := h.settings.symm

open Expansion in
theorem ExpandsTo.reordered (h : ExpandsTo r d x) (hd : d.Reordered d') :
    ∃ x', ExpandsTo r d' x' ∧ x.Reordered x' := by
  obtain ⟨clocks, hclocks, hpclocks⟩ := expandEntries_perm hd.templateClocks h.templateClocks
  obtain ⟨sources, hsources, hpsources⟩ := expandEntries_perm hd.templateSources h.templateSources
  obtain ⟨values, hvalues, hpvalues⟩ := expandEntries_perm hd.templateValues h.templateValues
  obtain ⟨bases, hbases, hpbases⟩ := expandEntries_perm hd.templateMetrics h.templateMetrics
  obtain ⟨clocks', hclocks', hpclocks'⟩ := expandEntries_perm hd.instanceClocks h.instanceClocks
  obtain ⟨sources', hsources', hpsources'⟩ :=
    expandEntries_perm hd.instanceSources h.instanceSources
  obtain ⟨values', hvalues', hpvalues'⟩ := expandEntries_perm hd.instanceValues h.instanceValues
  have hmetrics : expandEntries r .metrics d'.metrics = .ok x.metrics := by
    rw [hd.metrics]
    exact h.metrics
  refine ⟨⟨d'.iterators, ⟨clocks, sources, values, bases⟩, ⟨clocks', sources', values'⟩, x.metrics,
    d'.exporter, d'.settings⟩, ?_, ?_⟩
  · exact ⟨hclocks, hsources, hvalues, hbases, hclocks', hsources', hvalues', hmetrics, rfl, rfl,
      rfl⟩
  · exact {
      iterators := hd.iterators.trans h.iterators.symm
      templateClocks := hpclocks
      templateSources := hpsources
      templateValues := hpvalues
      templateMetrics := hpbases
      instanceClocks := hpclocks'
      instanceSources := hpsources'
      instanceValues := hpvalues'
      metrics := rfl
      exporter := hd.exporter.trans h.exporter.symm
      settings := hd.settings.trans h.settings.symm }

end Decl.Document

/-! ### One kind -/

namespace Resolution

variable {δ ρ : Type} [Declared δ] {kind : EntityKind} {build build' : Build δ ρ}
  {templates templates' instances instances' : List δ} {ns ns' next : Namespace}

theorem register_perm (hns : ns.claimed.Nodup) (hclaimed : ns.claimed.Perm ns'.claimed)
    (htemplates : templates.Perm templates') (hinstances : instances.Perm instances')
    (h : register kind templates instances ns = .ok next) :
    ∃ next', register kind templates' instances' ns' = .ok next' ∧
      next.claimed.Perm next'.claimed := by
  have hperm : (ns.claimed ++ (templates.map name ++ instances.map name)).Perm
      (ns'.claimed ++ (templates'.map name ++ instances'.map name)) :=
    hclaimed.append ((htemplates.map name).append (hinstances.map name))
  have hns' : ns'.claimed.Nodup := hclaimed.nodup_iff.mp hns
  obtain ⟨hnames, -⟩ := (register_eq_ok_iff hns).mp h
  obtain ⟨next', hnext'⟩ : ∃ next', register kind templates' instances' ns' = .ok next' :=
    ⟨_, (register_eq_ok_iff hns').mpr ⟨hperm.nodup_iff.mp hnames, rfl⟩⟩
  refine ⟨next', hnext', ?_⟩
  rw [(claimed_register hns h).1, (claimed_register hns' hnext').1]
  exact hperm

theorem resolveTemplates_perm (ns' : Namespace) (hnames : (templates.map name).Nodup)
    (hperm : templates.Perm templates')
    (hbuild : ∀ d b trail, Refines (build d b trail) (build' d b trail))
    {table : List (String × ρ)} (h : resolveTemplates ns kind build templates = .ok table) :
    ∃ table', resolveTemplates ns' kind build' templates' = .ok table' ∧
      Assoc.Within table table' := by
  have hnames' : (templates'.map name).Nodup := (hperm.map name).nodup_iff.mp hnames
  have hresolves := (exists_resolveTemplates_iff ns hnames).mp ⟨table, h⟩
  obtain ⟨table', h'⟩ : ∃ table', resolveTemplates ns' kind build' templates' = .ok table' := by
    refine (exists_resolveTemplates_iff ns' hnames').mpr fun d hd ↦ ?_
    obtain ⟨hunshared, r, hr⟩ := hresolves d (hperm.mem_iff.mpr hd)
    exact ⟨hunshared, r, hr.mono hperm.subset hbuild⟩
  refine ⟨table', h', fun n r hlookup ↦ ?_⟩
  rw [(resolveTemplates_ok hnames h).lookup_iff hnames] at hlookup
  exact ((resolveTemplates_ok hnames' h').lookup_iff hnames').mpr (hlookup.mono hperm.subset hbuild)

theorem resolveKind_perm (ns' : Namespace)
    (hnames : (templates.map name ++ instances.map name).Nodup)
    (htemplates : templates.Perm templates') (hinstances : instances.Perm instances')
    (hbuild : ∀ d b trail, Refines (build d b trail) (build' d b trail)) {t : Tables ρ}
    (h : resolveKind ns kind build templates instances = .ok t) :
    ∃ t', resolveKind ns' kind build' templates' instances' = .ok t' ∧ t.Within t' := by
  have hnames' : (templates'.map name ++ instances'.map name).Nodup :=
    ((htemplates.map name).append (hinstances.map name)).nodup_iff.mp hnames
  obtain ⟨hresolves, hshared⟩ := (exists_resolveKind_iff ns hnames).mp ⟨t, h⟩
  obtain ⟨t', h'⟩ : ∃ t', resolveKind ns' kind build' templates' instances' = .ok t' := by
    refine (exists_resolveKind_iff ns' hnames').mpr ⟨fun d hd ↦ ?_, fun d hd ↦ ?_⟩
    · obtain ⟨hunshared, r, hr⟩ := hresolves d (htemplates.mem_iff.mpr hd)
      exact ⟨hunshared, r, hr.mono htemplates.subset hbuild⟩
    · obtain ⟨hunshared, r, hr⟩ := hshared d (hinstances.mem_iff.mpr hd)
      exact ⟨hunshared, r, hr.mono htemplates.subset hbuild⟩
  exact ⟨t', h', (resolveKind_ok hnames h).within (resolveKind_ok hnames' h') htemplates.subset
    hinstances.subset hbuild⟩

/-- Claiming the names of a kind and resolving it, for two lists side by side. -/
theorem claim_perm {build' : Namespace → Build δ ρ} (hns : ns.claimed.Nodup)
    (hclaimed : ns.claimed.Perm ns'.claimed) (htemplates : templates.Perm templates')
    (hinstances : instances.Perm instances')
    (hbuild : ∀ names d b trail, Refines (build d b trail) (build' names d b trail)) {t : Tables ρ}
    (hnames : register kind templates instances ns = .ok next)
    (h : resolveKind next kind build templates instances = .ok t) :
    ∃ next' t', register kind templates' instances' ns' = .ok next' ∧
      resolveKind next' kind (build' next') templates' instances' = .ok t' ∧
        next.claimed.Nodup ∧ next.claimed.Perm next'.claimed ∧ t.Within t' := by
  obtain ⟨hall, hnodup⟩ := claimed_register hns hnames
  obtain ⟨next', hnames', hsame⟩ := register_perm hns hclaimed htemplates hinstances hnames
  obtain ⟨t', h', hwithin⟩ := resolveKind_perm next' (hall ▸ hnodup).of_append_right htemplates
    hinstances (hbuild next') h
  exact ⟨next', t', hnames', h', hnodup, hsame, hwithin⟩

end Resolution

/-! ### The phases side by side -/

/-- The second scope has the same names claimed, and everything of the first resolved. -/
structure Scope.Follows (s s' : Scope) : Prop where
  nodup : s.names.claimed.Nodup
  claimed : s.names.claimed.Perm s'.names.claimed
  within : s.Within s'

namespace Resolution

variable {s s' t : Scope}

theorem clockPhase_follows {templates templates' instances instances' : List Decl.Clock}
    (hs : s.Follows s') (htemplates : templates.Perm templates')
    (hinstances : instances.Perm instances') (h : clockPhase templates instances s = .ok t) :
    ∃ t', clockPhase templates' instances' s' = .ok t' ∧ t.Follows t' := by
  obtain ⟨names, hnames, h⟩ := bind_eq_ok_iff.mp h
  obtain ⟨clocks, hclocks, h⟩ := bind_eq_ok_iff.mp h
  obtain rfl := Except.ok.inj h
  obtain ⟨names', clocks', hnames', hclocks', hnodup, hsame, hwithin⟩ :=
    claim_perm hs.nodup hs.claimed htemplates hinstances (fun _ _ _ _ ↦ .refl _) hnames hclocks
  refine ⟨{ s' with names := names', clocks := clocks' }, ?_, ?_⟩
  · exact bind_eq_ok_iff.mpr ⟨names', hnames', bind_eq_ok_iff.mpr ⟨clocks', hclocks', rfl⟩⟩
  · exact ⟨hnodup, hsame, hwithin, hs.within.sources, hs.within.values⟩

theorem sourcePhase_follows {templates templates' instances instances' : List Decl.Source}
    (hs : s.Follows s') (htemplates : templates.Perm templates')
    (hinstances : instances.Perm instances') (h : sourcePhase templates instances s = .ok t) :
    ∃ t', sourcePhase templates' instances' s' = .ok t' ∧ t.Follows t' := by
  obtain ⟨names, hnames, h⟩ := bind_eq_ok_iff.mp h
  obtain ⟨sources, hsources, h⟩ := bind_eq_ok_iff.mp h
  obtain rfl := Except.ok.inj h
  have hbuild : ∀ names' d b trail, Refines (Scope.buildSource { s with names := names } d b trail)
      (Scope.buildSource { s' with names := names' } d b trail) := by
    intro names' d b trail
    apply Scope.buildSource_refines
    exact hs.within.clocks
  obtain ⟨names', sources', hnames', hsources', hnodup, hsame, hwithin⟩ :=
    claim_perm hs.nodup hs.claimed htemplates hinstances hbuild hnames hsources
  refine ⟨{ s' with names := names', sources := sources' }, ?_, ?_⟩
  · exact bind_eq_ok_iff.mpr ⟨names', hnames', bind_eq_ok_iff.mpr ⟨sources', hsources', rfl⟩⟩
  · exact ⟨hnodup, hsame, hs.within.clocks, hwithin, hs.within.values⟩

theorem valuePhase_follows {templates templates' instances instances' : List Decl.Value}
    (hs : s.Follows s') (htemplates : templates.Perm templates')
    (hinstances : instances.Perm instances') (h : valuePhase templates instances s = .ok t) :
    ∃ t', valuePhase templates' instances' s' = .ok t' ∧ t.Follows t' := by
  obtain ⟨names, hnames, h⟩ := bind_eq_ok_iff.mp h
  obtain ⟨values, hvalues, h⟩ := bind_eq_ok_iff.mp h
  obtain rfl := Except.ok.inj h
  have hbuild : ∀ names' d b trail, Refines (Scope.buildValue { s with names := names } d b trail)
      (Scope.buildValue { s' with names := names' } d b trail) := by
    intro names' d b trail
    apply Scope.buildValue_refines
    · exact hs.within.clocks
    · exact hs.within.sources
  obtain ⟨names', values', hnames', hvalues', hnodup, hsame, hwithin⟩ :=
    claim_perm hs.nodup hs.claimed htemplates hinstances hbuild hnames hvalues
  refine ⟨{ s' with names := names', values := values' }, ?_, ?_⟩
  · exact bind_eq_ok_iff.mpr ⟨names', hnames', bind_eq_ok_iff.mpr ⟨values', hvalues', rfl⟩⟩
  · exact ⟨hnodup, hsame, hs.within.clocks, hs.within.sources, hwithin⟩

theorem metricPhase_follows {templates templates' : List Decl.MetricTemplate}
    {ms : List Decl.Metric} {metrics : List Config.Metric} (hs : s.Follows s')
    (htemplates : templates.Perm templates') (h : metricPhase templates ms s = .ok metrics) :
    metricPhase templates' ms s' = .ok metrics := by
  obtain ⟨names, hnames, h⟩ := bind_eq_ok_iff.mp h
  obtain ⟨bases, hbases, h⟩ := bind_eq_ok_iff.mp h
  obtain ⟨hclaimed, hnodup⟩ := claimed_register hs.nodup hnames
  obtain ⟨names', hnames', -⟩ := register_perm hs.nodup hs.claimed htemplates (.refl _) hnames
  have hwithin : Scope.Within { s with names := names } { s' with names := names' } :=
    ⟨hs.within.clocks, hs.within.sources, hs.within.values⟩
  have hdistinct : (templates.map name).Nodup :=
    (hclaimed ▸ hnodup).of_append_right.of_append_left
  obtain ⟨bases', hbases', hkept⟩ := resolveTemplates_perm names' hdistinct htemplates
    (fun _ _ _ ↦ Scope.buildMetricTemplate_refines hwithin) hbases
  have hmetrics := Scope.resolveMetrics_refines hwithin hkept ms metrics h
  exact bind_eq_ok_iff.mpr ⟨names', hnames', bind_eq_ok_iff.mpr ⟨bases', hbases', hmetrics⟩⟩

end Resolution

/-! ### Configurations -/

/-- Two configurations that differ at most in the order of their shared entities. -/
structure Config.Agrees (c c' : Config) : Prop where
  metrics : c'.metrics = c.metrics
  exporter : c'.exporter = c.exporter
  settings : c'.settings = c.settings
  clocks : ∀ n, c'.instances.clocks.lookup n = c.instances.clocks.lookup n
  sources : ∀ n, c'.instances.sources.lookup n = c.instances.sources.lookup n
  values : ∀ n, c'.instances.values.lookup n = c.instances.values.lookup n

/-- A configuration holds everything of another, and no other metrics. -/
structure Config.Follows (c c' : Config) : Prop where
  metrics : c'.metrics = c.metrics
  exporter : c'.exporter = c.exporter
  settings : c'.settings = c.settings
  clocks : Assoc.Within c.instances.clocks c'.instances.clocks
  sources : Assoc.Within c.instances.sources c'.instances.sources
  values : Assoc.Within c.instances.values c'.instances.values

theorem Config.Follows.antisymm {c c' : Config} (h : c.Follows c') (h' : c'.Follows c) :
    c.Agrees c' where
  metrics := h.metrics
  exporter := h.exporter
  settings := h.settings
  clocks := h.clocks.antisymm h'.clocks
  sources := h.sources.antisymm h'.sources
  values := h.values.antisymm h'.values

open Resolution in
theorem Config.resolve_follows {x x' : Decl.Document} (hx : x.Reordered x') {config : Config}
    (h : Config.resolve x = .ok config) :
    ∃ config', Config.resolve x' = .ok config' ∧ config.Follows config' := by
  obtain ⟨s, hclocks, h⟩ := bind_eq_ok_iff.mp h
  obtain ⟨t, hsources, h⟩ := bind_eq_ok_iff.mp h
  obtain ⟨u, hvalues, h⟩ := bind_eq_ok_iff.mp h
  obtain ⟨metrics, hmetrics, h⟩ := bind_eq_ok_iff.mp h
  obtain ⟨exporter, hexporter, h⟩ := bind_eq_ok_iff.mp h
  obtain ⟨settings, hsettings, h⟩ := bind_eq_ok_iff.mp h
  obtain rfl := Except.ok.inj h
  have hstart : Scope.Follows {} {} :=
    ⟨by simp [Namespace.claimed, Assoc.keys], .refl _, .refl _, .refl _, .refl _⟩
  obtain ⟨s', hclocks', hs⟩ :=
    clockPhase_follows hstart hx.templateClocks hx.instanceClocks hclocks
  obtain ⟨t', hsources', ht⟩ :=
    sourcePhase_follows hs hx.templateSources hx.instanceSources hsources
  obtain ⟨u', hvalues', hu⟩ := valuePhase_follows ht hx.templateValues hx.instanceValues hvalues
  have hmetrics' := metricPhase_follows hu hx.templateMetrics hmetrics
  rw [← hx.metrics] at hmetrics'
  rw [← hx.exporter] at hexporter
  rw [← hx.settings] at hsettings
  refine ⟨⟨⟨u'.clocks.shared, u'.sources.shared, u'.values.shared⟩, metrics, exporter, settings⟩,
    ?_, ?_⟩
  · refine bind_eq_ok_iff.mpr ⟨s', hclocks', bind_eq_ok_iff.mpr ⟨t', hsources', ?_⟩⟩
    refine bind_eq_ok_iff.mpr ⟨u', hvalues', bind_eq_ok_iff.mpr ⟨metrics, hmetrics', ?_⟩⟩
    exact bind_eq_ok_iff.mpr ⟨exporter, hexporter, bind_eq_ok_iff.mpr ⟨settings, hsettings, rfl⟩⟩
  · exact ⟨rfl, rfl, rfl, hu.within.clocks.shared, hu.within.sources.shared,
      hu.within.values.shared⟩

theorem Decl.Document.compile_follows {d d' : Decl.Document} (hd : d.Reordered d')
    {config : Config} (h : d.compile = .ok config) :
    ∃ config', d'.compile = .ok config' ∧ config.Follows config' := by
  obtain ⟨x, hexpand, hresolve⟩ := compile_eq_ok_iff.mp h
  obtain ⟨r, hregistry, hx⟩ := expand_eq_ok_iff.mp hexpand
  obtain ⟨x', hx', hreordered⟩ := hx.reordered hd
  obtain ⟨config', hresolve', hfollows⟩ := Config.resolve_follows hreordered hresolve
  have hexpand' : d'.expand = .ok x' := by
    refine expand_eq_ok_iff.mpr ⟨r, ?_, hx'⟩
    rw [hd.iterators]
    exact hregistry
  exact ⟨config', compile_eq_ok_iff.mpr ⟨x', hexpand', hresolve'⟩, hfollows⟩

/-- Documents that differ only in the order of declarations compile together, to configurations that
differ at most in the order of their shared entities. -/
theorem Decl.Document.compile_reordered {d d' : Decl.Document} (h : d.Reordered d') :
    ((∃ config, d.compile = .ok config) ↔ ∃ config', d'.compile = .ok config') ∧
      ∀ config config', d.compile = .ok config → d'.compile = .ok config' →
        config.Agrees config' := by
  refine ⟨⟨?_, ?_⟩, fun config config' hconfig hconfig' ↦ ?_⟩
  · rintro ⟨config, hconfig⟩
    obtain ⟨config', hconfig', -⟩ := compile_follows h hconfig
    exact ⟨config', hconfig'⟩
  · rintro ⟨config', hconfig'⟩
    obtain ⟨config, hconfig, -⟩ := compile_follows h.symm hconfig'
    exact ⟨config, hconfig⟩
  · -- Each configuration holds everything of the other, as the documents can change places.
    obtain ⟨second, hsecond, hfollows⟩ := compile_follows h hconfig
    obtain ⟨first, hfirst, hfollows'⟩ := compile_follows h.symm hconfig'
    obtain rfl : second = config' := Except.ok.inj (hsecond.symm.trans hconfig')
    obtain rfl : first = config := Except.ok.inj (hfirst.symm.trans hconfig)
    exact hfollows.antisymm hfollows'

/-! ### A demonstration -/

namespace Demo

/-- The document with every list of declarations back to front. -/
def reversed : Decl.Document := { document with
  templates := {
    clocks := document.templates.clocks.reverse
    sources := document.templates.sources.reverse
    values := document.templates.values.reverse
    metrics := document.templates.metrics.reverse }
  instances := {
    clocks := document.instances.clocks.reverse
    sources := document.instances.sources.reverse
    values := document.instances.values.reverse } }

/-- Back to front, the document compiles to a configuration that agrees. -/
theorem reversed_agrees :
    document.Reordered reversed ∧
      ∃ config', reversed.compile = .ok config' ∧ config.Agrees config' := by
  have hreordered : document.Reordered reversed := {
    iterators := rfl
    templateClocks := (List.reverse_perm _).symm
    templateSources := (List.reverse_perm _).symm
    templateValues := (List.reverse_perm _).symm
    templateMetrics := (List.reverse_perm _).symm
    instanceClocks := (List.reverse_perm _).symm
    instanceSources := (List.reverse_perm _).symm
    instanceValues := (List.reverse_perm _).symm
    metrics := rfl
    exporter := rfl
    settings := rfl }
  obtain ⟨htogether, hagree⟩ := Decl.Document.compile_reordered hreordered
  obtain ⟨config', hconfig'⟩ := htogether.mp ⟨config, compile_document⟩
  exact ⟨hreordered, config', hconfig', hagree config config' compile_document hconfig'⟩

end Demo

end TelemetrySim
