import TelemetrySim.Proofs.Resolution.Marker
import TelemetrySim.Proofs.Resolution.Phases

/-!
The nearest declaration wins. A declaration and the templates it is based on form a chain, and every
field of what it resolves to comes from the first of the chain that writes it. The statement is made
of one structure for each kind, which says it of a chain and an entity (`Clock.Nearest`,
`Source.Nearest`, `Value.Nearest`, `Metric.Nearest`), and of `Denotes`, which says what a reference
inside a chain stands for. Building is only required to extend a chain by one declaration
(`Extends`); the chains of any length follow by induction along the bases.
-/

set_option autoImplicit false
set_option relaxedAutoImplicit false

namespace TelemetrySim

open Outcome Resolution
open Declared (name base shared)

/-! ### Chains -/

namespace Resolution

variable {δ ρ : Type} [Declared δ]

/-- The templates that a declaration is based on, the nearest first: the only list that its base
leads to. -/
structure Bases (templates : List δ) (b : Option String) (l : List δ) : Prop where
  chain : Chain templates b l
  unique : ∀ l', Chain templates b l' → l' = l

/-- What a reference stands for, with its marker. It stands for the shared entity that it names, and
the name is the marker; if it names none, its chain describes the entity and there is no marker. -/
structure Denotes (templates : List δ) (table : List (String × ρ)) (P : List δ → ρ → Prop) (d : δ)
    (r : ρ) (marker : Option String) : Prop where
  marker_eq : marker = shared d
  shared : ∀ n, shared d = some n → table.lookup n = some r
  own : Declared.shared d = none → ∃ l, Bases templates (base d) l ∧ P (d :: l) r

/-- What is inherited from a chain: nothing from an empty one. -/
def Along (P : List δ → ρ → Prop) (l : List δ) : Option ρ → Prop
  | none => l = []
  | some r => P l r

/-- Building on what a chain gives is what the longer chain gives. -/
def Extends (build : Build δ ρ) (P : List δ → ρ → Prop) : Prop :=
  ∀ ⦃d l b trail r⦄, Along P l b → build d b trail = .ok r → P (d :: l) r

variable {kind : EntityKind} {build : Build δ ρ} {P : List δ → ρ → Prop}
  {templates instances : List δ} {t : Tables ρ}

omit [Declared δ] in
/-- What an entity has from its chain is what is inherited from the chain. -/
theorem Along.eq_bind {β : Type} {F : List δ → Option β} {g : ρ → Option β} {l : List δ}
    {b : Option ρ} (hl : Along P l b) (hnil : F [] = none) (hfield : ∀ r, P l r → F l = g r) :
    F l = b.bind g := by
  cases b with
  | none =>
    obtain rfl : l = [] := hl
    exact hnil
  | some r => exact hfield r hl

theorem Inherited.along (hbuild : Extends build P) {n : Option String} {b : Option ρ}
    (h : Inherited kind build templates n b) : ∃ l, Chain templates n l ∧ Along P l b := by
  induction h with
  | nothing => exact ⟨[], .nil, rfl⟩
  | template hd hbase hbuilt ih =>
    obtain ⟨l, hchain, hl⟩ := ih
    exact ⟨_, .cons hd hchain, hbuild hl hbuilt⟩

theorem Resolves.along (hnames : (templates.map name).Nodup) (hbuild : Extends build P)
    {origin : Origin} {d : δ} {r : ρ} (h : Resolves kind origin build templates d r) :
    ∃ l, Bases templates (base d) l ∧ P (d :: l) r := by
  obtain ⟨b, hbase, hbuilt⟩ := h
  obtain ⟨l, hchain, hl⟩ := hbase.along hbuild
  exact ⟨l, ⟨hchain, fun _ h ↦ h.unique hnames hchain⟩, hbuild hl hbuilt⟩

theorem ResolvedKind.denotes (h : ResolvedKind kind build templates instances t)
    (hbuild : Extends build P) {d : δ} {overrides : Bool} {trail : Trail} {r : ρ}
    {marker : Option String} (hyields : Scope.Yields kind t build d
      (.of (Declared.shared d) (base d)) overrides trail r marker) :
    Denotes templates t.shared P d r marker := by
  have hnames : (templates.map name).Nodup := h.names.of_append_left
  cases hshared : Declared.shared d with
  | some n =>
    rw [hshared] at hyields
    cases hyields with
    | shared hreference hoverrides hfound =>
      obtain rfl := Decl.Reference.shared.inj hreference
      exact {
        marker_eq := hshared.symm
        shared := by
          intro m hm
          obtain rfl := Option.some_inj.mp (hshared.symm.trans hm)
          exact hfound
        own := by simp [hshared] }
    | copied hreference hfound hbuilt => simp [Decl.Reference.of] at hreference
    | inPlace hreference hbuilt => simp [Decl.Reference.of] at hreference
  | none =>
    rw [hshared] at hyields
    have hplain : ∀ m, Declared.shared d = some m → t.shared.lookup m = some r := by simp [hshared]
    cases hbase : base d with
    | some n =>
      rw [hbase] at hyields
      cases hyields with
      | shared hreference hoverrides hfound => simp [Decl.Reference.of] at hreference
      | copied hreference hfound hbuilt =>
        obtain rfl := Decl.Reference.copied.inj hreference
        obtain ⟨l, hchain, hl⟩ := (h.bases.sound _ _ hfound).along hbuild
        have hbases : Bases templates (base d) l := by
          rw [hbase]
          exact ⟨hchain, fun _ h ↦ h.unique hnames hchain⟩
        exact ⟨hshared.symm, hplain, fun _ ↦ ⟨l, hbases, hbuild hl hbuilt⟩⟩
      | inPlace hreference hbuilt => simp [Decl.Reference.of] at hreference
    | none =>
      rw [hbase] at hyields
      cases hyields with
      | shared hreference hoverrides hfound => simp [Decl.Reference.of] at hreference
      | copied hreference hfound hbuilt => simp [Decl.Reference.of] at hreference
      | inPlace hreference hbuilt =>
        have hbases : Bases templates (base d) [] := by
          rw [hbase]
          exact ⟨.nil, fun _ h ↦ h.unique hnames .nil⟩
        have hnothing : Along P [] none := rfl
        exact ⟨hshared.symm, hplain, fun _ ↦ ⟨[], hbases, hbuild hnothing hbuilt⟩⟩

theorem findSome?_cons_eq_or {α β : Type} {f : α → Option β} {a : α} {l : List α} :
    (a :: l).findSome? f = (f a).or (l.findSome? f) := by
  cases h : f a with
  | none => simp [h]
  | some b => simp [h]

end Resolution

/-! ### What a chain says -/

namespace Config

/-- The first kind and the first interval of a chain. -/
structure Clock.Nearest (l : List Decl.Clock) (c : Clock) : Prop where
  kind : l.findSome? (·.kind) = some c.kind
  interval : l.findSome? (·.interval) = some c.interval

variable (x : Decl.Document) (i : Instances)

/-- The clock of a source or of a value, with its marker: none if no reference is written. -/
def ClockPart (written : Option Decl.Clock) (clock : Option Clock) (marker : Option String) :
    Prop :=
  match written with
  | none => clock = none ∧ marker = none
  | some d => ∃ c, clock = some c ∧ Denotes x.templates.clocks i.clocks Clock.Nearest d c marker

/-- The first kind, the first bounds and the first clock of a chain. -/
structure Source.Nearest (l : List Decl.Source) (s : Source) : Prop where
  kind : l.findSome? (·.kind) = some s.kind
  min : s.min = (l.findSome? (·.min)).getD 0
  max : s.max = (l.findSome? (·.max)).getD 0
  clock : ClockPart x i (l.findSome? (·.clock)) s.clock s.clockRef

/-- The first source, the first clock, the first transforms and the first reset of a chain. -/
structure Value.Nearest (l : List Decl.Value) (v : Value) : Prop where
  source : ∃ d, l.findSome? (·.source) = some d ∧
    Denotes x.templates.sources i.sources (Source.Nearest x i) d v.source v.sourceRef
  clock : ClockPart x i (l.findSome? (·.clock)) v.clock v.clockRef
  transforms : v.transforms = ((l.findSome? (·.transforms)).map Scope.transformsOf).getD []
  reset : v.reset = (l.findSome? (·.reset)).map Scope.resetOf

/-- The value of a reference to a value. -/
def Value.Denoted (d : Decl.Value) (v : Value) : Prop :=
  Denotes x.templates.values i.values (Value.Nearest x i) d v d.instanceName

/-- The first type, description, value and attributes of a chain. Attributes are not merged. -/
structure Metric.Nearest (l : List Decl.MetricTemplate) (m : Metric) : Prop where
  kind : (l.findSome? (·.kind)).bind MetricKind.named = some m.kind
  description : l.findSome? (·.description) = some m.description
  value : ∃ d, l.findSome? (·.value) = some d ∧ m.value.Denoted x i d
  attributes : m.attributes = ((l.findSome? (·.attributes)).map Assoc.sorted).getD []

end Config

/-- What a metric writes over its template. -/
def Decl.Metric.overrides (m : Decl.Metric) : Decl.MetricTemplate where
  templateName := m.templateName
  kind := m.kind
  description := m.description
  value := m.value
  attributes := m.attributes

/-- Everything that a configuration holds comes from the nearest declarations of a document. -/
structure Config.Nearest (x : Decl.Document) (config : Config) : Prop where
  clocks : List.Forall₂ (fun d p ↦ p.1 = name d ∧
    ∃ l, Bases x.templates.clocks (base d) l ∧ Clock.Nearest (d :: l) p.2)
      x.instances.clocks config.instances.clocks
  sources : List.Forall₂ (fun d p ↦ p.1 = name d ∧
    ∃ l, Bases x.templates.sources (base d) l ∧ Source.Nearest x config.instances (d :: l) p.2)
      x.instances.sources config.instances.sources
  values : List.Forall₂ (fun d p ↦ p.1 = name d ∧
    ∃ l, Bases x.templates.values (base d) l ∧ Value.Nearest x config.instances (d :: l) p.2)
      x.instances.values config.instances.values
  metrics : List.Forall₂ (fun d m ↦
    ∃ l, Bases x.templates.metrics d.templateName l ∧
      Metric.Nearest x config.instances (d.overrides :: l) m) x.metrics config.metrics

/-! ### Building extends a chain -/

theorem Scope.buildClock_extends : Extends Scope.buildClock Config.Clock.Nearest := by
  intro c l b trail clock hl h
  obtain ⟨hkind, -, hinterval, -⟩ := buildClock_eq_ok_iff.mp h
  have hkinds : l.findSome? (·.kind) = b.map (·.kind) := by
    rw [Option.map_eq_bind]
    exact hl.eq_bind rfl fun _ hr ↦ hr.kind
  have hintervals : l.findSome? (·.interval) = b.map (·.interval) := by
    rw [Option.map_eq_bind]
    exact hl.eq_bind rfl fun _ hr ↦ hr.interval
  exact {
    kind := by rw [findSome?_cons_eq_or, hkinds, hkind]
    interval := by rw [findSome?_cons_eq_or, hintervals, hinterval] }

namespace Resolution.Settled

variable {x : Decl.Document} {config : Config} {s : Scope} {bases : List (String × MetricBase)}
  (h : Settled x config s bases)

include h

theorem clockPart {c written : Option Decl.Clock}
    {inherited : Option Config.Clock × Option String} {trail : Trail}
    {clock : Option Config.Clock} {marker : Option String}
    (hinherited : Config.ClockPart x config.instances written inherited.1 inherited.2)
    (hclock : s.clockOr c inherited trail = .ok (clock, marker)) :
    Config.ClockPart x config.instances (c.or written) clock marker := by
  rcases Scope.clockOr_cases hclock with ⟨rfl, rfl⟩ | ⟨d, k, rfl, rfl, hresolved⟩
  · exact hinherited
  · have hyields := Scope.resolveClock_eq_ok_iff.mp hresolved
    have hdenotes := h.clocks.denotes Scope.buildClock_extends hyields
    rw [h.instances]
    exact ⟨k, rfl, hdenotes⟩

theorem buildSource_extends :
    Extends s.buildSource (Config.Source.Nearest x config.instances) := by
  intro d l b trail source hl hbuilt
  obtain ⟨hclock, hkind, hmin, hmax, hne, -⟩ := Scope.buildSource_eq_ok_iff.mp hbuilt
  cases b with
  | none =>
    obtain rfl : l = [] := hl
    obtain ⟨k, hk⟩ : ∃ k, d.kind = some k := by
      cases hk : d.kind with
      -- The source of no base at all has no kind, and that is refused.
      | none => exact absurd (by rw [hkind, hk]; rfl) hne
      | some k => exact ⟨k, rfl⟩
    exact {
      kind := by simp [hkind, hk]
      min := by simp [findSome?_cons_eq_or, hmin]
      max := by simp [findSome?_cons_eq_or, hmax]
      clock := by
        rw [findSome?_cons_eq_or]
        exact h.clockPart ⟨rfl, rfl⟩ hclock }
  | some r =>
    have hr : Config.Source.Nearest x config.instances l r := hl
    exact {
      kind := by
        rw [findSome?_cons_eq_or, hr.kind, hkind]
        cases d.kind <;> rfl
      min := by rw [findSome?_cons_eq_or, Option.getD_or, ← hr.min, hmin]; rfl
      max := by rw [findSome?_cons_eq_or, Option.getD_or, ← hr.max, hmax]; rfl
      clock := by
        rw [findSome?_cons_eq_or]
        exact h.clockPart hr.clock hclock }

theorem buildValue_extends : Extends s.buildValue (Config.Value.Nearest x config.instances) := by
  intro d l b trail value hl hbuilt
  obtain ⟨hsource, hclock, htransforms, hreset, hne, -⟩ := Scope.buildValue_eq_ok_iff.mp hbuilt
  have hwritten : ∀ d', s.resolveSource d' trail = .ok (value.source, value.sourceRef) →
      Denotes x.templates.sources config.instances.sources
        (Config.Source.Nearest x config.instances) d' value.source value.sourceRef := by
    intro d' hresolved
    have hyields := Scope.resolveSource_eq_ok_iff.mp hresolved
    have hdenotes := h.sources.denotes h.buildSource_extends hyields
    have htable : config.instances.sources = s.sources.shared := by rw [h.instances]
    rw [htable]
    exact hdenotes
  cases b with
  | none =>
    obtain rfl : l = [] := hl
    exact {
      source := by
        rcases Scope.sourceOr_cases hsource with ⟨-, hpair⟩ | ⟨d', hd', hresolved⟩
        · exact absurd (congrArg Config.Source.kind (Prod.mk.inj hpair).1).symm hne
        · exact ⟨d', by simp [hd'], hwritten d' hresolved⟩
      clock := by
        rw [findSome?_cons_eq_or]
        exact h.clockPart ⟨rfl, rfl⟩ hclock
      transforms := by simp [findSome?_cons_eq_or, htransforms]
      reset := by simp [findSome?_cons_eq_or, hreset] }
  | some r =>
    have hr : Config.Value.Nearest x config.instances l r := hl
    exact {
      source := by
        rcases Scope.sourceOr_cases hsource with ⟨hnone, hpair⟩ | ⟨d', hd', hresolved⟩
        · obtain ⟨d', hd', hdenotes⟩ := hr.source
          obtain ⟨hsame, hmarker⟩ := Prod.mk.inj hpair
          refine ⟨d', by simp [hnone, hd'], ?_⟩
          rw [← hsame, ← hmarker]
          exact hdenotes
        · exact ⟨d', by simp [hd'], hwritten d' hresolved⟩
      clock := by
        rw [findSome?_cons_eq_or]
        exact h.clockPart hr.clock hclock
      transforms := by
        rw [findSome?_cons_eq_or, htransforms]
        cases d.transforms with
        | none => exact hr.transforms
        | some ts => rfl
      reset := by
        rw [findSome?_cons_eq_or, hreset]
        cases d.reset with
        | none => exact hr.reset
        | some p => rfl }

theorem denoted {d : Decl.Value} {trail : Trail} {value : Config.Value}
    (hresolved : s.resolveValue d trail = .ok value) : value.Denoted x config.instances d := by
  obtain ⟨marker, hyields⟩ := Scope.resolveValue_eq_ok_iff.mp hresolved
  have hdenotes := h.values.denotes h.buildValue_extends hyields
  obtain rfl : marker = d.instanceName := hdenotes.marker_eq
  have htable : config.instances.values = s.values.shared := by rw [h.instances]
  rw [Config.Value.Denoted, htable]
  exact hdenotes

end Resolution.Settled

/-! ### Metrics -/

/-- The first type, description, value and attributes of a chain of templates, of which only the
type has to be written. -/
structure MetricBase.Nearest (x : Decl.Document) (i : Config.Instances)
    (l : List Decl.MetricTemplate) (b : MetricBase) : Prop where
  kind : (l.findSome? (·.kind)).bind Config.MetricKind.named = some b.kind
  description : b.description = l.findSome? (·.description)
  value : Option.Rel (Config.Value.Denoted x i) (l.findSome? (·.value)) b.value
  attributes : b.attributes = (l.findSome? (·.attributes)).map Assoc.sorted

section Inherited

variable {x : Decl.Document} {i : Config.Instances} {l : List Decl.MetricTemplate}
  {b : Option MetricBase} (hl : Along (MetricBase.Nearest x i) l b) {trail : Trail}

include hl

theorem Scope.metricKind_nearest {written : Option String} {kind : Config.MetricKind}
    (h : metricKind written b trail = .ok kind) :
    (written.or (l.findSome? (·.kind))).bind Config.MetricKind.named = some kind := by
  cases written with
  | some text => exact orFails_eq_ok_iff.mp h
  | none =>
    have hkinds : (l.findSome? (·.kind)).bind Config.MetricKind.named = b.bind (some ·.kind) :=
      hl.eq_bind (F := fun l ↦ (l.findSome? (·.kind)).bind Config.MetricKind.named) rfl
        fun _ hr ↦ hr.kind
    rw [Option.none_or, hkinds]
    exact (Option.map_eq_bind ..).symm.trans (orFails_eq_ok_iff.mp h)

theorem Scope.attributesOr_nearest {written : Option Decl.Attributes}
    {attributes : Option Config.Attributes}
    (h : attributesOr written (b.bind (·.attributes)) trail = .ok attributes) :
    attributes = (written.or (l.findSome? (·.attributes))).map Assoc.sorted := by
  obtain ⟨rfl, rfl⟩ | ⟨a, rfl, -, rfl⟩ := attributesOr_ok h
  · exact (hl.eq_bind (F := fun l ↦ (l.findSome? (·.attributes)).map Assoc.sorted) rfl
      fun _ hr ↦ hr.attributes.symm).symm
  · rfl

theorem MetricBase.description_nearest :
    b.bind (·.description) = l.findSome? (·.description) :=
  (hl.eq_bind (F := List.findSome? (·.description)) rfl fun _ hr ↦ hr.description.symm).symm

end Inherited

namespace Resolution.Settled

variable {x : Decl.Document} {config : Config} {s : Scope} {bases : List (String × MetricBase)}
  (h : Settled x config s bases) {l : List Decl.MetricTemplate} {b : Option MetricBase}
  {trail : Trail}

include h

theorem valueOr_nearest (hl : Along (MetricBase.Nearest x config.instances) l b)
    {written : Option Decl.Value} {value : Option Config.Value}
    (hvalue : s.valueOr written (b.bind (·.value)) trail = .ok value) :
    Option.Rel (Config.Value.Denoted x config.instances) (written.or (l.findSome? (·.value)))
      value := by
  cases written with
  | some d =>
    obtain ⟨v, hresolved, rfl⟩ := map_eq_ok_iff.mp hvalue
    exact .some (h.denoted hresolved)
  | none =>
    obtain rfl := Except.ok.inj hvalue
    cases b with
    | none =>
      obtain rfl : l = [] := hl
      exact .none
    | some r => exact MetricBase.Nearest.value hl

theorem buildMetricTemplate_extends :
    Extends s.buildMetricTemplate (MetricBase.Nearest x config.instances) := by
  intro m l b trail r hl hbuilt
  obtain ⟨hkind, hdescription, hvalue, hattributes⟩ := Scope.buildMetricTemplate_ok hbuilt
  exact {
    kind := by
      rw [findSome?_cons_eq_or]
      exact Scope.metricKind_nearest hl hkind
    description := by
      rw [hdescription, findSome?_cons_eq_or, MetricBase.description_nearest hl]
    value := by
      rw [findSome?_cons_eq_or]
      exact h.valueOr_nearest hl hvalue
    attributes := by
      rw [findSome?_cons_eq_or]
      exact Scope.attributesOr_nearest hl hattributes }

/-- The template of a metric is described by the chain of its name. -/
theorem metricBase_nearest {n : Option String} {trail' : Trail}
    (hbase : s.metricBase bases n trail = .ok (b, trail')) :
    ∃ l, Bases x.templates.metrics n l ∧ Along (MetricBase.Nearest x config.instances) l b := by
  have hinherited : Inherited .metric s.buildMetricTemplate x.templates.metrics n b := by
    obtain ⟨rfl, rfl⟩ | ⟨n, r, rfl, hfound, rfl⟩ := Scope.metricBase_ok hbase
    · exact .nothing
    · exact h.metricBases.sound n r hfound
  obtain ⟨l, hchain, hl⟩ := hinherited.along h.buildMetricTemplate_extends
  exact ⟨l, ⟨hchain, fun _ h' ↦ h'.unique h.metricNames hchain⟩, hl⟩

theorem metric_nearest {m : Decl.Metric} {metric : Config.Metric}
    (hmetric : s.resolveMetric bases m = .ok metric) :
    ∃ l, Bases x.templates.metrics m.templateName l ∧
      Config.Metric.Nearest x config.instances (m.overrides :: l) metric := by
  obtain ⟨b, trail, hbase, hfrom⟩ := Scope.resolveMetric_ok hmetric
  obtain ⟨l, hbases, hl⟩ := h.metricBase_nearest hbase
  have hdescribed : m.description.or (b.bind (·.description)) = some metric.description :=
    (Option.filter_eq_some_iff.mp hfrom.description).1
  obtain ⟨attributes, hattributes, hsame⟩ := hfrom.attributes
  refine ⟨l, hbases, ?_⟩
  exact {
    kind := by
      rw [findSome?_cons_eq_or]
      exact Scope.metricKind_nearest hl hfrom.kind
    description := by
      rw [findSome?_cons_eq_or, ← MetricBase.description_nearest hl]
      exact hdescribed
    value := by
      have hrel := h.valueOr_nearest hl hfrom.value
      rw [findSome?_cons_eq_or]
      generalize hfirst : m.value.or (l.findSome? (·.value)) = first at hrel
      cases hrel with
      | @some d _ hdenoted => exact ⟨d, hfirst, hdenoted⟩
    attributes := by
      rw [findSome?_cons_eq_or, hsame]
      exact congrArg (·.getD []) (Scope.attributesOr_nearest hl hattributes) }

theorem nearest : config.Nearest x where
  clocks := by
    rw [h.instances]
    exact h.clocks.shared.imp fun d p hp ↦
      ⟨hp.1, hp.2.along h.clocks.names.of_append_left Scope.buildClock_extends⟩
  sources := by
    have htable : config.instances.sources = s.sources.shared := by rw [h.instances]
    rw [htable]
    exact h.sources.shared.imp fun d p hp ↦
      ⟨hp.1, hp.2.along h.sources.names.of_append_left h.buildSource_extends⟩
  values := by
    have htable : config.instances.values = s.values.shared := by rw [h.instances]
    rw [htable]
    exact h.values.shared.imp fun d p hp ↦
      ⟨hp.1, hp.2.along h.values.names.of_append_left h.buildValue_extends⟩
  metrics := h.metrics.imp fun m metric hmetric ↦ h.metric_nearest hmetric

end Resolution.Settled

/-- In a compiled configuration every field of every shared entity and of every metric comes from
the nearest declaration that writes it. -/
theorem Config.nearest_of_compile {d : Decl.Document} {config : Config}
    (h : d.compile = .ok config) : ∃ x, d.expand = .ok x ∧ config.Nearest x := by
  obtain ⟨x, hexpand, hresolve⟩ := Decl.Document.compile_eq_ok_iff.mp h
  obtain ⟨s, bases, hsettled⟩ := settled_of_resolve hresolve
  exact ⟨x, hexpand, hsettled.nearest⟩

/-- The configuration of the demonstration comes from the nearest declarations of its document. -/
theorem Demo.config_nearest :
    document.compile = .ok config ∧ ∃ x, document.expand = .ok x ∧ config.Nearest x :=
  ⟨compile_document, Config.nearest_of_compile compile_document⟩

end TelemetrySim
