import TelemetrySim.Proofs.Naming
import TelemetrySim.Proofs.Resolution.Marker
import TelemetrySim.Proofs.Resolution.Phases

/-!
Links of a document. A reference to a shared entity says nothing else and names one that is
declared, and a base is a declared template of the same kind (`LinkedKind`, `Decl.Document.Linked`).
In a document that resolves every declaration has been built, so every reference in a declaration
has been resolved. A resolved reference has been built in turn, or it refers to a shared entity and
holds no other references (`Visited.built_or_plain`). So every reference has been visited, down to
the clocks of the sources of the values.
-/

set_option autoImplicit false
set_option relaxedAutoImplicit false

namespace TelemetrySim

open Outcome Resolution
open Declared (name base)

/-! ### Links -/

/-- The links of the declarations and the references of one kind. A reference to a shared entity is
`bare` if nothing else is written. -/
structure LinkedKind {δ : Type} [Declared δ] (bare : String → δ)
    (templates instances references : List δ) : Prop where
  declared : ∀ d ∈ templates ++ instances, Declared.shared d = none
  shared : ∀ d ∈ references, ∀ n, Declared.shared d = some n →
    d = bare n ∧ ∃ d' ∈ instances, name d' = n
  based : ∀ d ∈ templates ++ instances ++ references, ∀ n, base d = some n →
    ∃ d' ∈ templates, name d' = n

namespace Decl

def Clock.bare (n : String) : Clock := { instanceName := some n }

def Source.bare (n : String) : Source := { instanceName := some n }

def Value.bare (n : String) : Value := { instanceName := some n }

/-- The links of a document, of all declarations and of the references at any depth. -/
structure Document.Linked (x : Document) : Prop where
  clocks : LinkedKind Clock.bare x.templates.clocks x.instances.clocks x.clockReferences
  sources : LinkedKind Source.bare x.templates.sources x.instances.sources x.sourceReferences
  values : LinkedKind Value.bare x.templates.values x.instances.values x.valueReferences
  metricTemplates : BasesDeclared x.templates.metrics
  metrics : ∀ m ∈ x.metrics, ∀ n, m.templateName = some n → ∃ m' ∈ x.templates.metrics, name m' = n

theorem Clock.eq_bare {c : Clock} {n : String} (hname : c.name = none)
    (hinstance : c.instanceName = some n) (hplain : c.hasOverrides = false) : c = bare n := by
  obtain ⟨m, i, t, k, interval⟩ := c
  obtain ⟨⟨rfl, rfl⟩, rfl⟩ : (t = none ∧ k = none) ∧ interval = none := by
    simpa [hasOverrides] using hplain
  obtain rfl : m = none := hname
  obtain rfl : i = some n := hinstance
  rfl

theorem Source.eq_bare {s : Source} {n : String} (hname : s.name = none)
    (hinstance : s.instanceName = some n) (hplain : s.hasOverrides = false) : s = bare n := by
  obtain ⟨m, i, t, k, c, lower, upper⟩ := s
  obtain ⟨⟨⟨⟨rfl, rfl⟩, rfl⟩, rfl⟩, rfl⟩ :
      (((t = none ∧ k = none) ∧ c = none) ∧ lower = none) ∧ upper = none := by
    simpa [hasOverrides] using hplain
  obtain rfl : m = none := hname
  obtain rfl : i = some n := hinstance
  rfl

theorem Value.eq_bare {v : Value} {n : String} (hname : v.name = none)
    (hinstance : v.instanceName = some n) (hplain : v.hasOverrides = false) : v = bare n := by
  obtain ⟨m, i, t, s, c, transforms, reset⟩ := v
  obtain ⟨⟨⟨⟨rfl, rfl⟩, rfl⟩, rfl⟩, rfl⟩ :
      (((t = none ∧ s = none) ∧ c = none) ∧ transforms = none) ∧ reset = none := by
    simpa [hasOverrides] using hplain
  obtain rfl : m = none := hname
  obtain rfl : i = some n := hinstance
  rfl

end Decl

/-! ### References that are visited -/

namespace Resolution

variable {δ ρ : Type} [Declared δ] {kind : EntityKind} {build : Build δ ρ}
  {templates instances references : List δ} {t : Tables ρ} {overrides : δ → Bool} {d : δ}

/-- The declaration or reference has been built. -/
def Built (build : Build δ ρ) (d : δ) : Prop := ∃ b trail r, build d b trail = .ok r

/-- The reference has been resolved. -/
def Visited (kind : EntityKind) (t : Tables ρ) (build : Build δ ρ) (overrides : δ → Bool) (d : δ) :
    Prop :=
  ∃ trail r marker,
    Scope.Yields kind t build d (.of (Declared.shared d) (base d)) (overrides d) trail r marker

/-- A resolved reference has been built, unless it changes nothing. -/
theorem Visited.built_or_plain (h : Visited kind t build overrides d) :
    Built build d ∨ overrides d = false := by
  obtain ⟨trail, r, marker, hyields⟩ := h
  cases hyields with
  | shared hreference hoverrides hfound => exact .inr hoverrides
  | copied hreference hfound hbuilt => exact .inl ⟨_, _, _, hbuilt⟩
  | inPlace hreference hbuilt => exact .inl ⟨_, _, _, hbuilt⟩

theorem Visited.shared (h : Visited kind t build overrides d) {n : String}
    (hshared : Declared.shared d = some n) :
    overrides d = false ∧ ∃ r, t.shared.lookup n = some r := by
  obtain ⟨trail, r, marker, hyields⟩ := h
  rw [hshared] at hyields
  cases hyields with
  | shared hreference hoverrides hfound =>
    obtain rfl := Decl.Reference.shared.inj hreference
    exact ⟨hoverrides, r, hfound⟩
  | copied hreference hfound hbuilt => simp [Decl.Reference.of] at hreference
  | inPlace hreference hbuilt => simp [Decl.Reference.of] at hreference

theorem Visited.based (h : Visited kind t build overrides d) {n : String}
    (hshared : Declared.shared d = none) (hbase : base d = some n) :
    ∃ b, t.templates.lookup n = some b := by
  obtain ⟨trail, r, marker, hyields⟩ := h
  rw [hshared, hbase] at hyields
  cases hyields with
  | shared hreference hoverrides hfound => simp [Decl.Reference.of] at hreference
  | @copied m b _ hreference hfound hbuilt =>
    obtain rfl := Decl.Reference.copied.inj hreference
    exact ⟨b, hfound⟩
  | inPlace hreference hbuilt => simp [Decl.Reference.of] at hreference

theorem Inherited.declared {n : String} {b : Option ρ}
    (h : Inherited kind build templates (some n) b) : ∃ d ∈ templates, name d = n := by
  cases h with
  | @template d _ _ hd _ _ => exact ⟨d, hd, rfl⟩

theorem Resolves.base_declared {origin : Origin} {r : ρ}
    (h : Resolves kind origin build templates d r) {n : String} (hbase : base d = some n) :
    ∃ d' ∈ templates, name d' = n := by
  obtain ⟨b, hinherited, -⟩ := h
  rw [hbase] at hinherited
  exact hinherited.declared

theorem ResolvedKind.exists_resolves (h : ResolvedKind kind build templates instances t)
    (hd : d ∈ templates ++ instances) : ∃ origin r, Resolves kind origin build templates d r := by
  rcases List.mem_append.mp hd with hd | hd
  · obtain ⟨r, -, hresolves⟩ := h.bases.exists_resolves h.names.of_append_left hd
    exact ⟨.template, r, hresolves⟩
  · obtain ⟨p, -, -, hresolves⟩ := Pairing.exists_right h.shared hd
    exact ⟨.shared, p.2, hresolves⟩

theorem ResolvedKind.built (h : ResolvedKind kind build templates instances t)
    (hd : d ∈ templates ++ instances) : Built build d := by
  obtain ⟨origin, r, b, -, hbuilt⟩ := h.exists_resolves hd
  exact ⟨b, _, r, hbuilt⟩

/-- A kind whose references have all been resolved is linked. -/
theorem ResolvedKind.linked (h : ResolvedKind kind build templates instances t)
    {bare : String → δ} (hvisited : ∀ d ∈ references, Visited kind t build overrides d)
    (hbare : ∀ d ∈ references, ∀ n, Declared.shared d = some n → overrides d = false → d = bare n)
    (hplain : ∀ d, overrides d = false → base d = none) :
    LinkedKind bare templates instances references where
  declared := h.unshared
  shared := by
    intro d hd n hshared
    obtain ⟨hoverrides, r, hfound⟩ := (hvisited d hd).shared hshared
    obtain ⟨d', hd', hname, -⟩ := h.lookup_shared.mp hfound
    exact ⟨hbare d hd n hshared hoverrides, d', hd', hname⟩
  based := by
    intro d hd n hbase
    rcases List.mem_append.mp hd with hd | hd
    · obtain ⟨origin, r, hresolves⟩ := h.exists_resolves hd
      exact hresolves.base_declared hbase
    · cases hshared : Declared.shared d with
      | some m =>
        -- The base would be one more field beside the name of the shared entity.
        obtain ⟨hoverrides, -⟩ := (hvisited d hd).shared hshared
        rw [hplain d hoverrides] at hbase
        simp at hbase
      | none =>
        obtain ⟨b, hfound⟩ := (hvisited d hd).based hshared hbase
        obtain ⟨d', hd', hname, -⟩ := h.lookup_templates.mp hfound
        exact ⟨d', hd', hname⟩

end Resolution

/-! ### The references of a resolved document -/

namespace Scope

variable {s : Scope} {trail : Trail}

/-- The reference to a clock has been resolved. -/
def VisitsClock (s : Scope) : Decl.Clock → Prop :=
  Visited .clock s.clocks buildClock Decl.Clock.hasOverrides

/-- The reference to a source has been resolved. -/
def VisitsSource (s : Scope) : Decl.Source → Prop :=
  Visited .source s.sources s.buildSource Decl.Source.hasOverrides

/-- The reference to a value has been resolved. -/
def VisitsValue (s : Scope) : Decl.Value → Prop :=
  Visited .value s.values s.buildValue Decl.Value.hasOverrides

theorem visitsClock_of_clockOr {c : Decl.Clock}
    {inherited out : Option Config.Clock × Option String}
    (h : s.clockOr (some c) inherited trail = .ok out) : s.VisitsClock c := by
  obtain ⟨⟨clock, marker⟩, hclock, -⟩ := bind_eq_ok_iff.mp h
  exact ⟨trail, clock, marker, resolveClock_eq_ok_iff.mp hclock⟩

theorem visitsClock_of_source {d : Decl.Source} (h : Built s.buildSource d ∨ d.hasOverrides = false)
    {c : Decl.Clock} (hc : d.clock = some c) : s.VisitsClock c := by
  rcases h with ⟨b, trail, r, hbuilt⟩ | hplain
  · obtain ⟨hclock, -⟩ := buildSource_eq_ok_iff.mp hbuilt
    rw [hc] at hclock
    exact visitsClock_of_clockOr hclock
  · simp [Decl.Source.hasOverrides, hc] at hplain

theorem visitsClock_of_value {d : Decl.Value} (h : Built s.buildValue d ∨ d.hasOverrides = false)
    {c : Decl.Clock} (hc : d.clock = some c) : s.VisitsClock c := by
  rcases h with ⟨b, trail, r, hbuilt⟩ | hplain
  · obtain ⟨-, hclock, -⟩ := buildValue_eq_ok_iff.mp hbuilt
    rw [hc] at hclock
    exact visitsClock_of_clockOr hclock
  · simp [Decl.Value.hasOverrides, hc] at hplain

theorem visitsSource_of_value {d : Decl.Value} (h : Built s.buildValue d ∨ d.hasOverrides = false)
    {x : Decl.Source} (hx : d.source = some x) : s.VisitsSource x := by
  rcases h with ⟨b, trail, r, hbuilt⟩ | hplain
  · obtain ⟨hsource, -⟩ := buildValue_eq_ok_iff.mp hbuilt
    rw [hx] at hsource
    exact ⟨trail, r.source, r.sourceRef, resolveSource_eq_ok_iff.mp hsource⟩
  · simp [Decl.Value.hasOverrides, hx] at hplain

theorem visitsValue_of_valueOr {v : Decl.Value} {inherited out : Option Config.Value}
    (h : s.valueOr (some v) inherited trail = .ok out) : s.VisitsValue v := by
  obtain ⟨value, hvalue, -⟩ := map_eq_ok_iff.mp h
  obtain ⟨marker, hyields⟩ := resolveValue_eq_ok_iff.mp hvalue
  exact ⟨trail, value, marker, hyields⟩

end Scope

namespace Resolution.Settled

variable {x : Decl.Document} {config : Config} {s : Scope} {bases : List (String × MetricBase)}
  (h : Settled x config s bases)

include h

theorem visitsValue {v : Decl.Value} (hv : v ∈ x.valueReferences) : s.VisitsValue v := by
  rcases Decl.Document.mem_valueReferences_iff.mp hv with ⟨m, hm, hvalue⟩ | ⟨m, hm, hvalue⟩
  · obtain ⟨metric, -, hmetric⟩ := Pairing.exists_right h.metrics hm
    obtain ⟨b, trail, -, hfrom⟩ := Scope.resolveMetric_ok hmetric
    have hwritten := hfrom.value
    rw [hvalue] at hwritten
    exact Scope.visitsValue_of_valueOr hwritten
  · -- A template is built even if no metric is based on it.
    obtain ⟨r, -, b, -, hbuilt⟩ := h.metricBases.exists_resolves h.metricNames hm
    obtain ⟨-, -, hwritten, -⟩ := Scope.buildMetricTemplate_ok hbuilt
    rw [hvalue] at hwritten
    exact Scope.visitsValue_of_valueOr hwritten

theorem built_value {v : Decl.Value} (hv : v ∈ x.values) :
    Built s.buildValue v ∨ v.hasOverrides = false := by
  rcases Decl.Document.mem_values_iff.mp hv with hv | hv
  · exact .inl (h.values.built hv)
  · exact (h.visitsValue hv).built_or_plain

theorem visitsSource {d : Decl.Source} (hd : d ∈ x.sourceReferences) : s.VisitsSource d := by
  obtain ⟨v, hv, hsource⟩ := Decl.Document.mem_sourceReferences_iff.mp hd
  exact Scope.visitsSource_of_value (h.built_value hv) hsource

theorem built_source {d : Decl.Source} (hd : d ∈ x.sources) :
    Built s.buildSource d ∨ d.hasOverrides = false := by
  rcases Decl.Document.mem_sources_iff.mp hd with hd | hd
  · exact .inl (h.sources.built hd)
  · exact (h.visitsSource hd).built_or_plain

theorem visitsClock {c : Decl.Clock} (hc : c ∈ x.clockReferences) : s.VisitsClock c := by
  rcases Decl.Document.mem_clockReferences_iff.mp hc with ⟨d, hd, hclock⟩ | ⟨v, hv, hclock⟩
  · exact Scope.visitsClock_of_source (h.built_source hd) hclock
  · exact Scope.visitsClock_of_value (h.built_value hv) hclock

/-- The template of a metric is declared. -/
theorem metric_based {m : Decl.Metric} (hm : m ∈ x.metrics) {n : String}
    (hbase : m.templateName = some n) : ∃ m' ∈ x.templates.metrics, name m' = n := by
  obtain ⟨metric, -, hmetric⟩ := Pairing.exists_right h.metrics hm
  obtain ⟨b, trail, hfound, -⟩ := Scope.resolveMetric_ok hmetric
  obtain ⟨hnone, -⟩ | ⟨k, r, hname, hfound, -⟩ := Scope.metricBase_ok hfound
  · simp [hbase] at hnone
  · obtain rfl : n = k := Option.some_inj.mp (hbase.symm.trans hname)
    exact (h.metricBases.sound n r hfound).declared

theorem linked (hunnamed : x.Unnamed) : x.Linked where
  clocks := by
    refine h.clocks.linked (fun c hc ↦ h.visitsClock hc)
      (fun c hc n ↦ Decl.Clock.eq_bare (hunnamed.clocks c hc)) fun c hplain ↦ ?_
    simp only [Decl.Clock.hasOverrides, Bool.or_eq_false_iff, Option.isSome_eq_false_iff,
      Option.isNone_iff_eq_none] at hplain
    exact hplain.1.1
  sources := by
    refine h.sources.linked (fun d hd ↦ h.visitsSource hd)
      (fun d hd n ↦ Decl.Source.eq_bare (hunnamed.sources d hd)) fun d hplain ↦ ?_
    simp only [Decl.Source.hasOverrides, Bool.or_eq_false_iff, Option.isSome_eq_false_iff,
      Option.isNone_iff_eq_none] at hplain
    exact hplain.1.1.1.1
  values := by
    refine h.values.linked (fun v hv ↦ h.visitsValue hv)
      (fun v hv n ↦ Decl.Value.eq_bare (hunnamed.values v hv)) fun v hplain ↦ ?_
    simp only [Decl.Value.hasOverrides, Bool.or_eq_false_iff, Option.isSome_eq_false_iff,
      Option.isNone_iff_eq_none] at hplain
    exact hplain.1.1.1.1
  metricTemplates := by
    intro m hm n hbase
    obtain ⟨r, -, hresolves⟩ := h.metricBases.exists_resolves h.metricNames hm
    exact hresolves.base_declared hbase
  metrics := fun m hm n hbase ↦ h.metric_based hm hbase

end Resolution.Settled

/-- A checked document that compiles is linked once it is expanded, and one that is not linked then
does not compile. -/
theorem Decl.Document.linked_of_compile {d : Document} (hcheck : d.check = .ok ()) :
    (∀ config, d.compile = .ok config → ∃ x, d.expand = .ok x ∧ x.Linked) ∧
      ∀ x, d.expand = .ok x → ¬ x.Linked → ∃ e, d.compile = .error e := by
  have hlinked : ∀ config, d.compile = .ok config → ∃ x, d.expand = .ok x ∧ x.Linked := by
    intro config hcompile
    obtain ⟨x, hexpand, hresolve⟩ := compile_eq_ok_iff.mp hcompile
    obtain ⟨r, -, hx⟩ := expand_eq_ok_iff.mp hexpand
    obtain ⟨s, bases, hsettled⟩ := settled_of_resolve hresolve
    have hunnamed : x.Unnamed := hx.copied.unnamed (unnamed_of_check hcheck)
    exact ⟨x, hexpand, hsettled.linked hunnamed⟩
  refine ⟨hlinked, fun x hexpand hbroken ↦ ?_⟩
  cases hcompile : d.compile with
  | error e => exact ⟨e, rfl⟩
  | ok config =>
    obtain ⟨x', hexpand', hx'⟩ := hlinked config hcompile
    obtain rfl : x = x' := Except.ok.inj (hexpand.symm.trans hexpand')
    exact absurd hx' hbroken

/-! ### A demonstration -/

namespace Demo

/-- The document with one more template of metrics. No metric is based on it, and the clock of the
source of its value is not declared. -/
def dangling : Decl.Document := { document with
  templates := { document.templates with
    metrics := [{
      name := some "unused"
      kind := some "gauge"
      value := some { source := some {
        kind := some "random_int"
        clock := some { instanceName := some "nowhere" } } } }] } }

theorem not_linked_dangling : ¬ dangling.Linked := by
  intro h
  obtain ⟨-, c, hc, hname⟩ :=
    h.clocks.shared { instanceName := some "nowhere" } (by decide) "nowhere" rfl
  obtain rfl : c = { name := some "beat", templateName := some "second" } := by
    simpa [dangling, document] using hc
  revert hname
  decide

/-- The demonstration is linked. The one reference that dangles is enough for the other document not
to compile. -/
theorem document_linked :
    (document.check = .ok () ∧ document.compile = .ok config ∧
        ∃ x, document.expand = .ok x ∧ x.Linked) ∧
      dangling.check = .ok () ∧ ∃ e, dangling.compile = .error e := by
  have hcheck : document.check = .ok () := by with_unfolding_all rfl
  have hdangling : dangling.check = .ok () := by with_unfolding_all rfl
  have hexpand : dangling.expand = .ok dangling := by with_unfolding_all rfl
  refine ⟨⟨hcheck, compile_document, ?_⟩, hdangling, ?_⟩
  · exact (Decl.Document.linked_of_compile hcheck).1 config compile_document
  · exact (Decl.Document.linked_of_compile hdangling).2 dangling hexpand not_linked_dangling

end Demo

end TelemetrySim
