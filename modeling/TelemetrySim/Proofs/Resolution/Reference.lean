import TelemetrySim.Proofs.Resolution.Invariant

/-!
What resolving a reference and building a declaration can give. `Yields` says it of a reference of
any kind, and `refer_eq_ok_iff` that resolving gives exactly that. The lemmas after it say which
fields and which checks building a clock, a source or a value comes down to, and where the fields of
a metric and of a template of metrics come from.
-/

set_option autoImplicit false
set_option relaxedAutoImplicit false

namespace TelemetrySim.Scope

open Outcome Resolution

/-! ### References -/

section References

variable {δ ρ : Type}

/-- What a reference of a kind yields, with its marker: a shared entity under its name, or an entity
without a marker that is built on a template or in place. -/
inductive Yields (kind : EntityKind) (tables : Tables ρ) (build : Build δ ρ) (d : δ)
    (reference : Decl.Reference) (overrides : Bool) (trail : Trail) : ρ → Option String → Prop
  | shared {name : String} {r : ρ} (hreference : reference = .shared name)
      (hoverrides : overrides = false) (hfound : tables.shared.lookup name = some r) :
      Yields kind tables build d reference overrides trail r (some name)
  | copied {name : String} {base r : ρ} (hreference : reference = .copied name)
      (hfound : tables.templates.lookup name = some base)
      (hbuilt : build d (some base) ((templateEntity kind).frame name :: trail) = .ok r) :
      Yields kind tables build d reference overrides trail r none
  | inPlace {r : ρ} (hreference : reference = .inPlace) (hbuilt : build d none trail = .ok r) :
      Yields kind tables build d reference overrides trail r none

variable {kind : EntityKind} {tables : Tables ρ} {build : Build δ ρ} {d : δ}
  {reference : Decl.Reference} {overrides : Bool} {trail : Trail} {r : ρ} {marker : Option String}

/-- A marker names the shared entity that the reference yields. -/
theorem Yields.lookup_eq_some (h : Yields kind tables build d reference overrides trail r marker)
    {name : String} (hmarker : marker = some name) : tables.shared.lookup name = some r := by
  cases h with
  | shared hreference hoverrides hfound =>
    obtain rfl := Option.some_inj.mp hmarker
    exact hfound
  | copied hreference hfound hbuilt => simp at hmarker
  | inPlace hreference hbuilt => simp at hmarker

theorem Yields.all {P : ρ → Prop} (hbuild : Keeps build P) (htables : tables.All P)
    (h : Yields kind tables build d reference overrides trail r marker) : P r := by
  cases h with
  | shared hreference hoverrides hfound => exact htables.shared.of_lookup hfound
  | copied hreference hfound hbuilt =>
    refine hbuild (fun b hb ↦ ?_) hbuilt
    obtain rfl := Option.some_inj.mp hb
    exact htables.templates.of_lookup hfound
  | inPlace hreference hbuilt => exact hbuild (by simp) hbuilt

theorem orFails_eq_ok_iff {p : Problem} {x : Option ρ} :
    orFails trail p x = .ok r ↔ x = some r := by
  cases x with
  | none => simp [orFails, fails]
  | some a => simp [orFails]

theorem findShared_eq_ok_iff {s : Scope} {name : String} :
    s.findShared kind tables overrides name trail = .ok r ↔
      overrides = false ∧ tables.shared.lookup name = some r := by
  cases overrides with
  | false => simp [findShared, orFails_eq_ok_iff]
  | true => simp [findShared, fails]

theorem findTemplate_eq_ok_iff {s : Scope} {name : String} :
    s.findTemplate kind tables name trail = .ok r ↔ tables.templates.lookup name = some r :=
  orFails_eq_ok_iff

theorem refer_eq_ok_iff {s : Scope} :
    s.refer kind tables build d reference overrides trail = .ok (r, marker) ↔
      Yields kind tables build d reference overrides trail r marker := by
  constructor
  · intro h
    cases hreference : reference with
    | shared name =>
      rw [hreference] at h
      obtain ⟨found, hfound, hpair⟩ := bind_eq_ok_iff.mp h
      obtain ⟨rfl, rfl⟩ : found = r ∧ some name = marker := by
        simpa [pure, Except.pure] using hpair
      obtain ⟨hoverrides, hlookup⟩ := findShared_eq_ok_iff.mp hfound
      exact .shared rfl hoverrides hlookup
    | copied name =>
      rw [hreference] at h
      obtain ⟨base, hbase, h⟩ := bind_eq_ok_iff.mp h
      obtain ⟨built, hbuilt, hpair⟩ := bind_eq_ok_iff.mp h
      obtain ⟨rfl, rfl⟩ : built = r ∧ none = marker := by simpa [pure, Except.pure] using hpair
      exact .copied rfl (findTemplate_eq_ok_iff.mp hbase) hbuilt
    | inPlace =>
      rw [hreference] at h
      obtain ⟨built, hbuilt, hpair⟩ := bind_eq_ok_iff.mp h
      obtain ⟨rfl, rfl⟩ : built = r ∧ none = marker := by simpa [pure, Except.pure] using hpair
      exact .inPlace rfl hbuilt
  · intro h
    cases h with
    | shared hreference hoverrides hfound =>
      subst hreference
      exact bind_eq_ok_iff.mpr ⟨r, findShared_eq_ok_iff.mpr ⟨hoverrides, hfound⟩, rfl⟩
    | copied hreference hfound hbuilt =>
      subst hreference
      refine bind_eq_ok_iff.mpr ⟨_, findTemplate_eq_ok_iff.mpr hfound, ?_⟩
      exact bind_eq_ok_iff.mpr ⟨r, hbuilt, rfl⟩
    | inPlace hreference hbuilt =>
      subst hreference
      exact bind_eq_ok_iff.mpr ⟨r, hbuilt, rfl⟩

end References

/-! ### Clocks, sources and values -/

variable {s : Scope} {trail : Trail} {marker : Option String}

theorem resolveClock_eq_ok_iff {c : Decl.Clock} {clock : Config.Clock} :
    s.resolveClock c trail = .ok (clock, marker) ↔
      Yields .clock s.clocks buildClock c c.reference c.hasOverrides trail clock marker :=
  refer_eq_ok_iff

theorem resolveSource_eq_ok_iff {d : Decl.Source} {source : Config.Source} :
    s.resolveSource d trail = .ok (source, marker) ↔
      Yields .source s.sources s.buildSource d d.reference d.hasOverrides trail source marker :=
  refer_eq_ok_iff

theorem resolveValue_eq_ok_iff {d : Decl.Value} {value : Config.Value} :
    s.resolveValue d trail = .ok value ↔
      ∃ marker, Yields .value s.values s.buildValue d d.reference d.hasOverrides trail value
        marker := by
  rw [resolveValue, bind_eq_ok_iff]
  constructor
  · rintro ⟨⟨found, marker⟩, hfound, hpure⟩
    obtain rfl : found = value := by simpa [pure, Except.pure] using hpure
    exact ⟨marker, refer_eq_ok_iff.mp hfound⟩
  · rintro ⟨marker, hyields⟩
    exact ⟨(value, marker), refer_eq_ok_iff.mpr hyields, rfl⟩

/-- A clock has the kind and the interval that are written, or else those of its base. -/
theorem buildClock_eq_ok_iff {c : Decl.Clock} {base : Option Config.Clock} {clock : Config.Clock} :
    buildClock c base trail = .ok clock ↔
      c.kind.or (base.map (·.kind)) = some clock.kind ∧ clock.kind ≠ "" ∧
        c.interval.or (base.map (·.interval)) = some clock.interval ∧
          clock.interval.isZero = false := by
  obtain ⟨kind, interval⟩ := clock
  simp only [buildClock, bind_eq_ok_iff, orFails_eq_ok_iff, Decl.nonEmpty,
    Option.filter_eq_some_iff]
  constructor
  · rintro ⟨kind', ⟨hkind, hne⟩, interval', hinterval, h⟩
    split at h
    · simp [fails] at h
    · next hzero =>
      obtain ⟨rfl, rfl⟩ : kind' = kind ∧ interval' = interval := by
        simpa [pure, Except.pure] using h
      exact ⟨hkind, by simpa using hne, hinterval, by simpa using hzero⟩
  · rintro ⟨hkind, hne, hinterval, hzero⟩
    exact ⟨kind, ⟨hkind, by simpa using hne⟩, interval, hinterval,
      by simp [hzero, pure, Except.pure]⟩

/-- A written clock reference gives the clock and the marker together. -/
theorem clockOr_cases {c : Option Decl.Clock} {inherited : Option Config.Clock × Option String}
    {clock : Option Config.Clock} (h : s.clockOr c inherited trail = .ok (clock, marker)) :
    (c = none ∧ inherited = (clock, marker)) ∨
      ∃ d k, c = some d ∧ clock = some k ∧ s.resolveClock d trail = .ok (k, marker) := by
  cases c with
  | none => exact .inl ⟨rfl, by simpa [clockOr, pure, Except.pure] using h⟩
  | some d =>
    obtain ⟨⟨k, ref⟩, hclock, hpair⟩ := bind_eq_ok_iff.mp h
    obtain ⟨rfl, rfl⟩ : some k = clock ∧ ref = marker := by
      simpa [pure, Except.pure] using hpair
    exact .inr ⟨d, k, rfl, rfl, hclock⟩

/-- A written source reference gives the source and the marker together. -/
theorem sourceOr_cases {d : Option Decl.Source} {inherited : Config.Source × Option String}
    {source : Config.Source} (h : s.sourceOr d inherited trail = .ok (source, marker)) :
    (d = none ∧ inherited = (source, marker)) ∨
      ∃ d', d = some d' ∧ s.resolveSource d' trail = .ok (source, marker) := by
  cases d with
  | none => exact .inl ⟨rfl, by simpa [sourceOr, pure, Except.pure] using h⟩
  | some d' => exact .inr ⟨d', rfl, h⟩

theorem buildSource_eq_ok_iff {d : Decl.Source} {base : Option Config.Source}
    {source : Config.Source} :
    s.buildSource d base trail = .ok source ↔
      s.clockOr d.clock ((base.getD {}).clock, (base.getD {}).clockRef) trail =
          .ok (source.clock, source.clockRef) ∧
        source.kind = d.kind.getD (base.getD {}).kind ∧
        source.min = d.min.getD (base.getD {}).min ∧
        source.max = d.max.getD (base.getD {}).max ∧
        source.kind ≠ "" ∧ source.min ≤ source.max := by
  rw [buildSource, bind_eq_ok_iff]
  constructor
  · rintro ⟨⟨clock, ref⟩, hclock, h⟩
    dsimp only at h
    split at h
    · simp [fails] at h
    · next hkind =>
      split at h
      · simp [fails] at h
      · next hbounds =>
        obtain rfl := Except.ok.inj h
        exact ⟨hclock, rfl, rfl, rfl, hkind, Int64.not_lt.mp hbounds⟩
  · rintro ⟨hclock, hkind, hmin, hmax, hne, hle⟩
    refine ⟨(source.clock, source.clockRef), hclock, ?_⟩
    have hbounds : ¬ source.max < source.min := Int64.not_lt.mpr hle
    simp only [← hkind, ← hmin, ← hmax, hne, hbounds, if_false]
    rfl

theorem buildValue_eq_ok_iff {d : Decl.Value} {base : Option Config.Value} {value : Config.Value} :
    s.buildValue d base trail = .ok value ↔
      s.sourceOr d.source ((base.getD {}).source, (base.getD {}).sourceRef) trail =
          .ok (value.source, value.sourceRef) ∧
        s.clockOr d.clock ((base.getD {}).clock, (base.getD {}).clockRef) trail =
          .ok (value.clock, value.clockRef) ∧
        value.transforms = (d.transforms.map transformsOf).getD (base.getD {}).transforms ∧
        value.reset = (d.reset.map resetOf).or (base.getD {}).reset ∧
        value.source.kind ≠ "" ∧ value.effectiveClock.isSome := by
  rw [buildValue, bind_eq_ok_iff]
  constructor
  · rintro ⟨⟨source, sourceRef⟩, hsource, h⟩
    obtain ⟨⟨clock, clockRef⟩, hclock, h⟩ := bind_eq_ok_iff.mp h
    dsimp only at h
    split at h
    · simp [fails] at h
    · next hkind =>
      split at h
      · simp [fails] at h
      · next hdriven =>
        obtain rfl := Except.ok.inj h
        exact ⟨hsource, hclock, rfl, rfl, hkind, by simpa [Option.isSome_iff_ne_none] using hdriven⟩
  · rintro ⟨hsource, hclock, htransforms, hreset, hne, hdriven⟩
    refine ⟨(value.source, value.sourceRef), hsource, ?_⟩
    refine bind_eq_ok_iff.mpr ⟨(value.clock, value.clockRef), hclock, ?_⟩
    have hclocked : value.effectiveClock.isNone = false := by
      simpa [Option.isSome_iff_ne_none] using hdriven
    simp only [← htransforms, ← hreset, hne, if_false]
    rw [hclocked]
    rfl

/-! ### Metrics -/

section Metrics

variable {bases : List (String × MetricBase)} {base : Option MetricBase}

/-- The template of a metric is the one that it names. -/
theorem metricBase_ok {n : Option String} {trail' : Trail}
    (h : s.metricBase bases n trail = .ok (base, trail')) :
    n = none ∧ base = none ∨ ∃ k b, n = some k ∧ bases.lookup k = some b ∧ base = some b := by
  cases n with
  | none =>
    obtain ⟨rfl, -⟩ : none = base ∧ trail = trail' := by
      simpa [metricBase, pure, Except.pure] using h
    exact .inl ⟨rfl, rfl⟩
  | some k =>
    obtain ⟨b, hfound, hpair⟩ := bind_eq_ok_iff.mp h
    obtain ⟨rfl, -⟩ : some b = base ∧ _ = trail' := by simpa [pure, Except.pure] using hpair
    exact .inr ⟨k, b, rfl, orFails_eq_ok_iff.mp hfound, rfl⟩

theorem buildMetricTemplate_ok {m : Decl.MetricTemplate} {r : MetricBase}
    (h : s.buildMetricTemplate m base trail = .ok r) :
    metricKind m.kind base trail = .ok r.kind ∧
      r.description = m.description.or (base.bind (·.description)) ∧
      s.valueOr m.value (base.bind (·.value)) trail = .ok r.value ∧
      attributesOr m.attributes (base.bind (·.attributes)) trail = .ok r.attributes := by
  obtain ⟨kind, hkind, h⟩ := bind_eq_ok_iff.mp h
  obtain ⟨value, hvalue, h⟩ := bind_eq_ok_iff.mp h
  obtain ⟨attributes, hattributes, h⟩ := bind_eq_ok_iff.mp h
  obtain rfl := Except.ok.inj h
  exact ⟨hkind, rfl, hvalue, hattributes⟩

/-- What a metric resolves to, field by field, on top of a template or of none. -/
structure MetricFrom (s : Scope) (m : Decl.Metric) (base : Option MetricBase) (trail : Trail)
    (metric : Config.Metric) : Prop where
  names : metric.names = ⟨m.name.prometheus, m.name.otel⟩
  kind : metricKind m.kind base trail = .ok metric.kind
  description : Decl.nonEmpty (m.description.or (base.bind (·.description))) =
    some metric.description
  value : s.valueOr m.value (base.bind (·.value)) trail = .ok (some metric.value)
  attributes : ∃ a, attributesOr m.attributes (base.bind (·.attributes)) trail = .ok a ∧
    metric.attributes = a.getD []

theorem resolveMetric_ok {m : Decl.Metric} {metric : Config.Metric}
    (h : s.resolveMetric bases m = .ok metric) :
    ∃ base trail, s.metricBase bases m.templateName (metricTrail m) = .ok (base, trail) ∧
      s.MetricFrom m base trail metric := by
  obtain ⟨⟨base, trail⟩, hbase, h⟩ := bind_eq_ok_iff.mp h
  obtain ⟨kind, hkind, h⟩ := bind_eq_ok_iff.mp h
  obtain ⟨description, hdescription, h⟩ := bind_eq_ok_iff.mp h
  obtain ⟨written, hwritten, h⟩ := bind_eq_ok_iff.mp h
  obtain ⟨value, hvalue, h⟩ := bind_eq_ok_iff.mp h
  obtain ⟨attributes, hattributes, h⟩ := bind_eq_ok_iff.mp h
  obtain rfl := Except.ok.inj h
  obtain rfl : written = some value := orFails_eq_ok_iff.mp hvalue
  exact ⟨base, trail, hbase, rfl, hkind, orFails_eq_ok_iff.mp hdescription, hwritten, attributes,
    hattributes, rfl⟩

/-- Written attributes are checked and sorted. -/
theorem attributesOr_ok {a : Option Decl.Attributes}
    {inherited attributes : Option Config.Attributes}
    (h : attributesOr a inherited trail = .ok attributes) :
    a = none ∧ attributes = inherited ∨
      ∃ l, a = some l ∧ (∀ p ∈ l, isAttributeName p.1) ∧ attributes = some (Assoc.sorted l) := by
  cases a with
  | none => exact .inl ⟨rfl, (Except.ok.inj h).symm⟩
  | some l =>
    obtain ⟨sorted, hsorted, rfl⟩ := map_eq_ok_iff.mp h
    rw [buildAttributes] at hsorted
    split at hsorted
    · simp [fails] at hsorted
    · next hnone =>
      obtain rfl := Except.ok.inj hsorted
      exact .inr ⟨l, rfl, by simpa using List.find?_eq_none.mp hnone, rfl⟩

end Metrics

end TelemetrySim.Scope
