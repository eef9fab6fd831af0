import TelemetrySim.Proofs.Resolution.Exporter
import TelemetrySim.Proofs.Resolution.Marker
import TelemetrySim.Proofs.Resolution.WellFormed
import TelemetrySim.Proofs.Sorted

/-!
Compiled configurations are valid as a whole. Clocks, sources and values are well formed wherever
they stand; attributes keep their names through all templates (`keeps_attributes`), the loop over
the metrics keeps their series apart (`resolveMetrics_valid`), and either exporter can be reached.
-/

set_option autoImplicit false
set_option relaxedAutoImplicit false

namespace TelemetrySim

open Outcome Resolution

/-! ### What is valid -/

namespace Config

/-- A letter or underscore, then letters, digits and underscores; two underscores in front are
reserved. -/
structure AttributeKey (k : String) : Prop where
  start : ∃ c rest, k.toList = c :: rest ∧ (c.isAlpha ∨ c = '_')
  rest : ∀ c ∈ k.toList, c.isAlphanum ∨ c = '_'
  unreserved : ¬ ['_', '_'] <+: k.toList

def Attributes.Valid (a : Attributes) : Prop := Assoc.Sorted a ∧ ∀ p ∈ a, AttributeKey p.1

structure Metric.Valid (m : Metric) : Prop where
  description_ne : m.description ≠ ""
  attributes : ∀ p ∈ m.attributes, AttributeKey p.1
  value : m.value.WellFormed

/-- The metrics have the same name and, as maps, the same attributes. -/
def Metric.SameSeries (m m' : Metric) : Prop :=
  m.names.prometheus = m'.names.prometheus ∧ ∀ k, m.attributes.lookup k = m'.attributes.lookup k

def ValidPort (port : UInt16) : Prop := 1 ≤ port.toNat ∧ port.toNat ≤ 65535

instance (port : UInt16) : Decidable (ValidPort port) :=
  inferInstanceAs (Decidable (1 ≤ port.toNat ∧ port.toNat ≤ 65535))

structure Pull.Valid (p : Pull) : Prop where
  port : ValidPort p.port
  path : ['/'] <+: p.path.toList

structure Push.Valid (p : Push) : Prop where
  host_ne : p.host ≠ ""
  port : ValidPort p.port
  readInterval_ne : p.readInterval.isZero = false
  pushInterval_ne : p.pushInterval.isZero = false
  serviceName : ∃ v, p.resource.lookup "service.name" = some v
  serviceVersion : ∃ v, p.resource.lookup "service.version" = some v

def Export.Valid : Export → Prop
  | pull p => p.Valid
  | push p => p.Valid

end Config

structure Config.Valid (config : Config) : Prop where
  clocks : ∀ p ∈ config.instances.clocks, p.2.WellFormed
  sources : ∀ p ∈ config.instances.sources, p.2.WellFormed
  values : ∀ p ∈ config.instances.values, p.2.WellFormed
  metrics : ∀ m ∈ config.metrics, m.Valid
  series : config.metrics.Pairwise fun m m' ↦ ¬ m.SameSeries m'
  exporter : config.exporter.Valid

/-! ### Attributes -/

namespace Scope

variable {s : Scope} {trail : Trail}

theorem attributeKey_of_isAttributeName {k : String} (h : isAttributeName k = true) :
    Config.AttributeKey k := by
  obtain ⟨hident, hreserved⟩ := Bool.and_eq_true_iff.mp h
  have hunreserved : ¬ ['_', '_'] <+: k.toList := by
    have hstarts : k.startsWith "__" = false := by simpa using hreserved
    intro hprefix
    have hprefix : "__".toList <+: k.toList := hprefix
    rw [String.startsWith_string_iff.mpr hprefix] at hstarts
    simp at hstarts
  rw [Text.isIdent] at hident
  cases hchars : k.toList with
  | nil => simp [hchars] at hident
  | cons c rest =>
    rw [hchars, Text.isIdentChars_cons, Bool.and_eq_true_iff] at hident
    obtain ⟨hstart, hrest⟩ := hident
    refine ⟨⟨c, rest, hchars, by simpa [Text.isIdentStart] using hstart⟩, ?_, hunreserved⟩
    intro c' hc'
    have hchar : Text.isIdentRest c' = true := by
      rcases List.mem_cons.mp (hchars ▸ hc') with rfl | hc'
      · exact Text.isIdentRest_of_isIdentStart hstart
      · exact List.all_eq_true.mp hrest c' hc'
    simpa [Text.isIdentRest] using hchar

theorem attributesOr_valid {a : Option Decl.Attributes}
    {inherited attributes : Option Config.Attributes}
    (h : attributesOr a inherited trail = .ok attributes)
    (hinherited : ∀ l, inherited = some l → l.Valid) : ∀ l, attributes = some l → l.Valid := by
  obtain ⟨-, rfl⟩ | ⟨written, -, hkeys, rfl⟩ := attributesOr_ok h
  · exact hinherited
  · intro l hl
    obtain rfl := Option.some_inj.mp hl
    refine ⟨Assoc.sorted_sorted written, fun p hp ↦ ?_⟩
    exact attributeKey_of_isAttributeName (hkeys p (Assoc.mem_of_mem_sorted hp))

/-- The attributes of a template of metrics, if it has any, are valid. -/
def AttributesValid (b : MetricBase) : Prop := ∀ l, b.attributes = some l → l.Valid

theorem inherited_valid {base : Option MetricBase} (h : ∀ b, base = some b → AttributesValid b) :
    ∀ l : Config.Attributes, base.bind (·.attributes) = some l → l.Valid := by
  intro l hl
  obtain ⟨b, hb, hl⟩ := Option.bind_eq_some_iff.mp hl
  exact h b hb l hl

theorem keeps_attributes : Keeps s.buildMetricTemplate AttributesValid := by
  intro m base trail r hbase h
  obtain ⟨-, -, -, hattributes⟩ := buildMetricTemplate_ok h
  exact attributesOr_valid hattributes (inherited_valid hbase)

/-! ### Metrics -/

variable {bases : List (String × MetricBase)}

/-- What a metric has been given, apart from its value. -/
structure Labelled (m : Config.Metric) : Prop where
  description_ne : m.description ≠ ""
  attributes : Config.Attributes.Valid m.attributes

theorem labelled_of_resolveMetric (hbases : Assoc.All AttributesValid bases) {m : Decl.Metric}
    {metric : Config.Metric} (h : s.resolveMetric bases m = .ok metric) : Labelled metric := by
  obtain ⟨base, trail, hbase, hfrom⟩ := resolveMetric_ok h
  have hinherited : ∀ b, base = some b → AttributesValid b := by
    obtain ⟨-, rfl⟩ | ⟨n, b, -, hfound, rfl⟩ := metricBase_ok hbase
    · simp
    · intro b' hb'
      obtain rfl := Option.some_inj.mp hb'
      exact hbases.of_lookup hfound
  obtain ⟨a, ha, hsame⟩ := hfrom.attributes
  have hvalid := attributesOr_valid ha (inherited_valid hinherited)
  constructor
  · simpa using (Option.filter_eq_some_iff.mp hfrom.description).2
  · rw [hsame]
    cases a with
    | none => exact ⟨.nil, by simp⟩
    | some l => exact hvalid l rfl

/-- A metric is refused if its series is there already. -/
theorem not_sameSeries {done : List Config.Metric} {m : Config.Metric}
    (hdone : ∀ other ∈ done, Labelled other) (hm : Labelled m) (h : sameSeries done m = none) :
    ∀ other ∈ done, ¬ other.SameSeries m := by
  rintro other hother ⟨hname, hlookup⟩
  have hattributes : other.attributes = m.attributes :=
    Assoc.Sorted.eq_of_lookup (hdone other hother).attributes.1 hm.attributes.1 hlookup
  have hdiffers := List.findIdx?_eq_none_iff.mp h other hother
  simp [hname, hattributes] at hdiffers

theorem resolveMetrics_valid (hbases : Assoc.All AttributesValid bases) {ms : List Decl.Metric}
    {metrics : List Config.Metric} (h : s.resolveMetrics bases ms = .ok metrics) :
    (∀ m ∈ metrics, Labelled m) ∧ metrics.Pairwise fun m m' ↦ ¬ m.SameSeries m' := by
  refine foldlM_keeps (P := fun metrics : List Config.Metric ↦
      (∀ m ∈ metrics, Labelled m) ∧ metrics.Pairwise fun m m' ↦ ¬ m.SameSeries m')
    (fun d _ done next hdone hstep ↦ ?_) ⟨by simp, .nil⟩ h
  obtain ⟨hlabelled, hseries⟩ := hdone
  obtain ⟨metric, hmetric, hstep⟩ := bind_eq_ok_iff.mp hstep
  have hnew := labelled_of_resolveMetric hbases hmetric
  cases hsame : sameSeries done metric with
  | some previous => simp [hsame, fails] at hstep
  | none =>
    simp only [hsame] at hstep
    obtain rfl := Except.ok.inj hstep
    have hapart := not_sameSeries hlabelled hnew hsame
    constructor
    · intro m hm
      rcases List.mem_append.mp hm with hm | hm
      · exact hlabelled m hm
      · obtain rfl := List.mem_singleton.mp hm
        exact hnew
    · refine List.pairwise_append.mpr ⟨hseries, by simp, fun m hm m' hm' ↦ ?_⟩
      obtain rfl := List.mem_singleton.mp hm'
      exact hapart m hm

end Scope

/-! ### Exporters -/

namespace Config.Export

theorem validPort_of_portNumber {port : Option Int64} {default : Int} {q : UInt16}
    (hport : Decl.PortAllowed port) (hdefault : 1 ≤ default ∧ default ≤ 65535)
    (h : q.toNat = Decl.portNumber port default) : ValidPort q := by
  have hbounds : 1 ≤ Decl.portNumber port default ∧ Decl.portNumber port default ≤ 65535 := by
    cases port with
    | none => exact hdefault
    | some p => exact hport p rfl
  rw [ValidPort]
  omega

theorem valid_of_pull {d : Decl.Prometheus} {p : Pull} (hd : d.Valid) (h : d.Describes p) :
    p.Valid where
  port := validPort_of_portNumber hd.port (by decide) h.port
  path := by
    rw [h.path]
    exact (getD_iff (P := fun s : String ↦ ['/'] <+: s.toList) (by decide)).mpr hd.path

theorem isZero_eq_false {t : Duration} (h : t ≠ .zero) : t.isZero = false :=
  Bool.eq_false_iff.mpr (mt (Duration.isZero_iff t).mp h)

theorem valid_of_push {d : Decl.Otel} {p : Push} (hd : d.Valid) (h : d.Describes p) :
    p.Valid where
  host_ne := by
    rw [h.host]
    exact (getD_iff (P := (· ≠ "")) (by decide)).mpr hd.host
  port := validPort_of_portNumber hd.port (by split <;> decide) h.port
  readInterval_ne := by
    rw [h.readInterval]
    exact isZero_eq_false hd.readInterval
  pushInterval_ne := by
    rw [h.pushInterval]
    exact isZero_eq_false hd.pushInterval
  -- The name and the version of the service have defaults.
  serviceName := by simp [h.resource, Decl.Otel.serviceDefault]
  serviceVersion := by simp [h.resource, Decl.Otel.serviceDefault]

theorem resolve_valid {d : Decl.Export} {e : Export} (h : resolve d = .ok e) : e.Valid := by
  have hdecides := resolve_decides d
  have hd := hdecides.ok_iff.mp ⟨e, h⟩
  cases hdecides.gives h with
  | pull hs hp => exact valid_of_pull (hd.pull _ hs) hp
  | push hs hp => exact valid_of_push (hd.push _ hs) hp
  | neither => exact ⟨by decide, by decide⟩

end Config.Export

/-! ### Configurations -/

theorem Config.valid_of_resolve {d : Decl.Document} {config : Config}
    (h : Config.resolve d = .ok config) : config.Valid := by
  have hformed := wellFormed.of_resolve h
  obtain ⟨s, -, h⟩ := bind_eq_ok_iff.mp h
  obtain ⟨t, -, h⟩ := bind_eq_ok_iff.mp h
  obtain ⟨u, -, h⟩ := bind_eq_ok_iff.mp h
  obtain ⟨metrics, hmetrics, h⟩ := bind_eq_ok_iff.mp h
  obtain ⟨exporter, hexporter, h⟩ := bind_eq_ok_iff.mp h
  obtain ⟨settings, -, h⟩ := bind_eq_ok_iff.mp h
  obtain rfl := Except.ok.inj h
  obtain ⟨names, -, hmetrics⟩ := bind_eq_ok_iff.mp hmetrics
  obtain ⟨bases, hbases, hmetrics⟩ := bind_eq_ok_iff.mp hmetrics
  have hattributes : Assoc.All Scope.AttributesValid bases :=
    resolveTemplates_all Scope.keeps_attributes hbases
  obtain ⟨hlabelled, hseries⟩ := Scope.resolveMetrics_valid hattributes hmetrics
  exact {
    clocks := hformed.clocks
    sources := hformed.sources
    values := hformed.values
    metrics := fun m hm ↦ {
      description_ne := (hlabelled m hm).description_ne
      attributes := (hlabelled m hm).attributes.2
      value := hformed.metrics m hm }
    series := hseries
    exporter := Export.resolve_valid hexporter }

/-- Every compiled configuration is valid. -/
theorem Config.valid_of_compile {d : Decl.Document} {config : Config}
    (h : d.compile = .ok config) : config.Valid := by
  obtain ⟨expanded, -, h⟩ := bind_eq_ok_iff.mp h
  exact valid_of_resolve (mapError_eq_ok_iff.mp h)

/-- The configuration of the demonstration is valid. -/
theorem Demo.config_valid : document.compile = .ok config ∧ config.Valid :=
  ⟨compile_document, Config.valid_of_compile compile_document⟩

end TelemetrySim
