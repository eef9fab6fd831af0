import TelemetrySim.Proofs.Naming
import TelemetrySim.Proofs.Placeholder
import TelemetrySim.Proofs.Resolution.Phases
import TelemetrySim.Proofs.Rewriting

/-!
Names after expansion. The checks look at a name before its placeholders are filled, and an iterator
may have the empty value. A text that consists of placeholders with this value is `Blankable`, and
one of the copies of a declaration is without a name exactly if all texts of its name are
(`exists_blank_copy_iff`). So a configuration has all its names exactly if its document keeps them.
-/

set_option autoImplicit false
set_option relaxedAutoImplicit false

namespace TelemetrySim

open Outcome Resolution
open Declared (name)

/-! ### Texts -/

namespace Placeholder

variable {s : String} {x : Assignment}

theorem pieces_eq_nil_iff {cs : List Char} : pieces cs = [] ↔ cs = [] := by
  cases cs with
  | nil => simp [pieces]
  | cons c cs =>
    rw [pieces]
    split
    · split <;> simp
    · simp

theorem fill_eq_nil_iff {p : Piece} :
    p.fill x = [] ↔ ∃ n, p = .hole n ∧ x.lookup (String.ofList n) = some "" := by
  cases p with
  | char c => simp [Piece.fill, Piece.name?, Piece.chars]
  | hole n =>
    cases hlookup : x.lookup (String.ofList n) with
    | none => simp [Piece.fill, Piece.name?, Piece.chars, hlookup]
    | some v => simp [Piece.fill, Piece.name?, hlookup]

/-- A text becomes empty if it consists of placeholders that do. -/
theorem substitute_eq_empty_iff :
    substitute x s = "" ↔
      ∀ p ∈ pieces s.toList, ∃ n, p = .hole n ∧ x.lookup (String.ofList n) = some "" := by
  rw [substitute, ← String.ofList_nil, String.ofList_inj, List.flatMap_eq_nil_iff]
  exact forall₂_congr fun _ _ ↦ fill_eq_nil_iff

/-- A text that some values of the iterators make empty. -/
def Blankable (domain : String → List String) (s : String) : Prop :=
  ∀ p ∈ pieces s.toList, ∃ n, p = .hole n ∧ "" ∈ domain (String.ofList n)

/-- A name, given by its texts, of which something is left whatever the values are. -/
def Lasting (domain : String → List String) (label : List String) : Prop :=
  ∃ t ∈ label, ¬ Blankable domain t

theorem blankable_iff_of_names (h : names s = []) {domain : String → List String} :
    Blankable domain s ↔ s = "" := by
  have hchar : ∀ p ∈ pieces s.toList, ∀ n, p ≠ .hole n := by
    rintro p hp n rfl
    have hmem := mem_names_of_hole hp
    simp [h] at hmem
  have hblank : Blankable domain s ↔ pieces s.toList = [] := by
    rw [List.eq_nil_iff_forall_not_mem]
    constructor
    · intro hs p hp
      obtain ⟨n, hn, -⟩ := hs p hp
      exact hchar p hp n hn
    · intro hs p hp
      exact absurd hp (hs p)
  rw [hblank, pieces_eq_nil_iff, String.toList_eq_nil_iff]

/-- Without empty values only the empty text is empty. -/
theorem Blankable.eq_empty {domain : String → List String} (h : Blankable domain s)
    (hdomain : ∀ n, "" ∉ domain n) : s = "" := by
  have hnone : pieces s.toList = [] := by
    refine List.eq_nil_iff_forall_not_mem.mpr fun p hp ↦ ?_
    obtain ⟨n, -, hn⟩ := h p hp
    exact hdomain _ hn
  rwa [pieces_eq_nil_iff, String.toList_eq_nil_iff] at hnone

end Placeholder

open Placeholder (Blankable Lasting)

/-! ### Copies -/

namespace Expansion

/-- The empty value where there is one, else the first. -/
def blanking (domain : String → List String) (n : String) : String :=
  if "" ∈ domain n then "" else (domain n).headD ""

theorem blanking_mem {domain : String → List String} {n : String} (h : domain n ≠ []) :
    blanking domain n ∈ domain n := by
  rw [blanking]
  split
  · assumption
  · obtain ⟨v, rest, hdomain⟩ := List.exists_cons_of_ne_nil h
    simp [hdomain]

/-- Some of the texts that are scanned. -/
structure Label (α : Type) [Scanned α] where
  texts : α → List String
  scanned : ∀ a, texts a ⊆ Scanned.texts a
  mapTexts : ∀ f a, texts (Scanned.mapTexts f a) = (texts a).map f

section Labels

variable {α : Type} [Scanned α] {r : Registry} {s : Decl.Section} {a : α}
  {copies entries out : List α} {label : Label α}

/-- A text that one of the choices makes empty can be made empty. -/
theorem blankable_of_substitute {domain : String → List String} {names : List String}
    {x : Assignment} (hx : x ∈ choices domain names) {t : String}
    (hnames : Placeholder.names t ⊆ names) (h : Placeholder.substitute x t = "") :
    Blankable domain t := by
  intro p hp
  obtain ⟨n, rfl, hlookup⟩ := Placeholder.substitute_eq_empty_iff.mp h p hp
  obtain ⟨v, hv, hvalue⟩ :=
    exists_lookup_of_mem_choices hx (hnames (Placeholder.mem_names_of_hole hp))
  obtain rfl : v = "" := Option.some_inj.mp (hvalue.symm.trans hlookup)
  exact ⟨n, rfl, hv⟩

/-- One of the choices makes all texts empty that can be made empty. -/
theorem exists_blanking_choice {domain : String → List String} {names : List String}
    (hdomain : ∀ n ∈ names, domain n ≠ []) :
    ∃ x ∈ choices domain names, ∀ t, Placeholder.names t ⊆ names → Blankable domain t →
      Placeholder.substitute x t = "" := by
  have hvalue : ∀ n ∈ names,
      (names.map fun n ↦ (n, blanking domain n)).lookup n = some (blanking domain n) := by
    intro n hn
    have hx : (names.map fun n ↦ (n, blanking domain n)) ∈
        choices (fun n ↦ [blanking domain n]) names :=
      map_mem_choices fun n _ ↦ List.mem_singleton_self _
    obtain ⟨v, hv, hlookup⟩ := exists_lookup_of_mem_choices hx hn
    rw [hlookup, List.mem_singleton.mp hv]
  refine ⟨_, map_mem_choices fun n hn ↦ blanking_mem (hdomain n hn), fun t hnames ht ↦ ?_⟩
  refine Placeholder.substitute_eq_empty_iff.mpr fun p hp ↦ ?_
  obtain ⟨n, rfl, hn⟩ := ht p hp
  refine ⟨n, rfl, ?_⟩
  rw [hvalue _ (hnames (Placeholder.mem_names_of_hole hp)), blanking, if_pos hn]

/-- There is a copy with an empty label exactly if all texts of the label can be made empty. -/
theorem exists_blank_copy_iff (h : expandEntry r a = .ok copies) :
    (∃ b ∈ copies, ∀ t ∈ label.texts b, t = "") ↔
      ∀ t ∈ label.texts a, Blankable r.domain t := by
  have hsubset : ∀ t ∈ label.texts a, Placeholder.names t ⊆ Scanned.placeholders a :=
    fun t ht n hn ↦ names_subset_placeholders (label.scanned a ht) hn
  by_cases hnames : Scanned.placeholders a = []
  · obtain rfl := expandEntry_eq_self h hnames
    have hplain : ∀ t ∈ label.texts a, Placeholder.names t = [] := by
      intro t ht
      have hnone := hsubset t ht
      rwa [hnames, List.subset_nil] at hnone
    simp only [List.mem_singleton, exists_eq_left]
    exact forall₂_congr fun t ht ↦ (Placeholder.blankable_iff_of_names (hplain t ht)).symm
  · obtain ⟨hdomains, rfl⟩ := expandEntry_eq_choices h hnames
    constructor
    · rintro ⟨b, hb, hblank⟩ t ht
      obtain ⟨x, hx, rfl⟩ := List.mem_map.mp hb
      rw [label.mapTexts] at hblank
      exact blankable_of_substitute hx (hsubset t ht) (hblank _ (List.mem_map_of_mem ht))
    · intro hlabel
      obtain ⟨x, hx, hempty⟩ := exists_blanking_choice fun n hn ↦ (hdomains n hn).2
      refine ⟨_, List.mem_map_of_mem hx, fun t' ht' ↦ ?_⟩
      rw [label.mapTexts] at ht'
      obtain ⟨t, ht, rfl⟩ := List.mem_map.mp ht'
      exact hempty t (hsubset t ht) (hlabel t ht)

theorem no_blank_copy_iff (h : expandEntries r s entries = .ok out) :
    (¬ ∃ b ∈ out, ∀ t ∈ label.texts b, t = "") ↔
      ∀ a ∈ entries, Lasting r.domain (label.texts a) := by
  obtain ⟨blocks, hblocks, rfl⟩ := expandEntries_eq_ok_iff.mp h
  constructor
  · intro hnone a ha
    obtain ⟨copies, hcopies, hexpand⟩ := Pairing.exists_right hblocks ha
    by_contra hlabel
    have hblankable : ∀ t ∈ label.texts a, Blankable r.domain t := by simpa [Lasting] using hlabel
    obtain ⟨b, hb, hblank⟩ := (exists_blank_copy_iff hexpand).mpr hblankable
    exact hnone ⟨b, List.mem_flatten.mpr ⟨copies, hcopies, hb⟩, hblank⟩
  · rintro hall ⟨b, hb, hblank⟩
    obtain ⟨copies, hcopies, hb⟩ := List.mem_flatten.mp hb
    obtain ⟨a, ha, hexpand⟩ := Pairing.exists_left hblocks hcopies
    obtain ⟨t, ht, hlasting⟩ := hall a ha
    exact hlasting ((exists_blank_copy_iff hexpand).mp ⟨b, hb, hblank⟩ t ht)

end Labels

end Expansion

/-! ### Names of declarations -/

/-- No metric and no shared object has an empty name. -/
structure Config.Named (config : Config) : Prop where
  prometheus : ∀ m ∈ config.metrics, m.names.prometheus ≠ ""
  otel : ∀ m ∈ config.metrics, m.names.otel ≠ ""
  clocks : "" ∉ Assoc.keys config.instances.clocks
  sources : "" ∉ Assoc.keys config.instances.sources
  values : "" ∉ Assoc.keys config.instances.values

namespace Decl

theorem nonEmpty_eq_none_iff {o : Option String} : nonEmpty o = none ↔ ∀ t ∈ o.toList, t = "" := by
  cases o with
  | none => simp [nonEmpty]
  | some t => simp [nonEmpty, Option.filter_some]

theorem getD_eq_empty_iff {o : Option String} : o.getD "" = "" ↔ ∀ t ∈ o.toList, t = "" := by
  cases o <;> simp

/-- Of two texts of a name the first that says something is taken. -/
theorem or_eq_empty_iff {o o' : Option String} :
    ((nonEmpty o).or (nonEmpty o')).getD "" = "" ↔ nonEmpty o = none ∧ nonEmpty o' = none := by
  cases h : nonEmpty o with
  | none =>
    cases h' : nonEmpty o' with
    | none => simp
    | some t =>
      have ht : t ≠ "" := by simpa using (Option.filter_eq_some_iff.mp h').2
      simp [ht]
  | some t =>
    have ht : t ≠ "" := by simpa using (Option.filter_eq_some_iff.mp h).2
    simp [ht]

namespace MetricName

theorem strings_eq_empty_iff {n : MetricName} :
    (∀ t ∈ n.strings, t = "") ↔ n.prometheus = "" := by
  cases n with
  | same name => simp [strings, prometheus]
  | forms p o =>
    simp only [prometheus, or_eq_empty_iff, nonEmpty_eq_none_iff, strings, written,
      List.flatMap_cons, List.flatMap_nil, List.append_nil, List.forall_mem_append]

/-- Both forms of a name are empty, or none is. -/
theorem otel_eq_empty_iff {n : MetricName} : n.otel = "" ↔ n.prometheus = "" := by
  cases n with
  | same name => rfl
  | forms p o => rw [otel, prometheus, or_eq_empty_iff, or_eq_empty_iff, and_comm]

end MetricName

open Expansion Scanned

theorem toList_map (f : String → String) (o : Option String) :
    (o.map f).toList = o.toList.map f := by
  cases o <;> rfl

theorem MetricName.strings_mapTexts (f : String → String) (n : MetricName) :
    (mapTexts f n).strings = n.strings.map f := by
  cases n with
  | same n => rfl
  | forms p o =>
    show written [p.map f, o.map f] = (written [p, o]).map f
    simp only [written, List.flatMap_cons, List.flatMap_nil, List.append_nil, List.map_append,
      toList_map]

def Clock.label : Label Clock where
  texts c := c.name.toList
  scanned c t ht := by simp [Clock.texts_eq, Clock.strings, written, ht]
  mapTexts f c := toList_map f c.name

def Source.label : Label Source where
  texts s := s.name.toList
  scanned s t ht := by simp [Source.texts_eq, Source.strings, written, ht]
  mapTexts f s := toList_map f s.name

def Value.label : Label Value where
  texts v := v.name.toList
  scanned v t ht := by simp [Value.texts_eq, Value.strings, written, ht]
  mapTexts f v := toList_map f v.name

def Metric.label : Label Metric where
  texts m := m.name.strings
  scanned m t ht := by simp [Metric.texts_eq, Metric.strings, ht]
  mapTexts f m := MetricName.strings_mapTexts f m.name

/-- Every metric and every instance has a name in all its copies. -/
structure Document.KeepsNames (d : Document) (domain : String → List String) : Prop where
  metrics : ∀ m ∈ d.metrics, Lasting domain (Metric.label.texts m)
  clocks : ∀ c ∈ d.instances.clocks, Lasting domain (Clock.label.texts c)
  sources : ∀ s ∈ d.instances.sources, Lasting domain (Source.label.texts s)
  values : ∀ v ∈ d.instances.values, Lasting domain (Value.label.texts v)

end Decl

/-! ### Documents -/

namespace Resolution

open Decl Expansion

/-- The table of a kind lacks the empty name if no declaration has it. -/
theorem ResolvedKind.empty_notMem_iff {δ ρ : Type} [Declared δ] {kind : EntityKind}
    {build : Build δ ρ} {templates instances : List δ} {t : Tables ρ}
    (h : ResolvedKind kind build templates instances t) [Scanned δ] (label : Label δ)
    (hname : ∀ d, name d = "" ↔ ∀ t ∈ label.texts d, t = "") :
    "" ∉ Assoc.keys t.shared ↔ ¬ ∃ d ∈ instances, ∀ t ∈ label.texts d, t = "" := by
  rw [not_iff_not]
  constructor
  · intro hmem
    obtain ⟨p, hp, hkey⟩ := List.mem_map.mp hmem
    obtain ⟨d, hd, hpair, -⟩ := Pairing.exists_left h.shared hp
    exact ⟨d, hd, (hname d).mp (hpair.symm.trans hkey)⟩
  · rintro ⟨d, hd, hblank⟩
    obtain ⟨p, hp, hpair, -⟩ := Pairing.exists_right h.shared hd
    exact List.mem_map.mpr ⟨p, hp, hpair.trans ((hname d).mpr hblank)⟩

theorem names_of_resolveMetric {s : Scope} {bases : List (String × MetricBase)} {m : Decl.Metric}
    {metric : Config.Metric} (h : s.resolveMetric bases m = .ok metric) :
    metric.names = ⟨m.name.prometheus, m.name.otel⟩ := by
  obtain ⟨base, trail, -, hfrom⟩ := Scope.resolveMetric_ok h
  exact hfrom.names

variable {x : Document} {config : Config} {s : Scope} {bases : List (String × MetricBase)}

theorem Settled.exists_unnamed_iff (h : Settled x config s bases) :
    (∃ metric ∈ config.metrics, metric.names.prometheus = "") ↔
      ∃ m ∈ x.metrics, ∀ t ∈ m.name.strings, t = "" := by
  constructor
  · rintro ⟨metric, hmetric, hempty⟩
    obtain ⟨m, hm, hresolve⟩ := Pairing.exists_left h.metrics hmetric
    rw [names_of_resolveMetric hresolve] at hempty
    exact ⟨m, hm, MetricName.strings_eq_empty_iff.mpr hempty⟩
  · rintro ⟨m, hm, hblank⟩
    obtain ⟨metric, hmetric, hresolve⟩ := Pairing.exists_right h.metrics hm
    refine ⟨metric, hmetric, ?_⟩
    rw [names_of_resolveMetric hresolve]
    exact MetricName.strings_eq_empty_iff.mp hblank

theorem Settled.otel_eq_empty_iff (h : Settled x config s bases) {metric : Config.Metric}
    (hmetric : metric ∈ config.metrics) :
    metric.names.otel = "" ↔ metric.names.prometheus = "" := by
  obtain ⟨m, -, hresolve⟩ := Pairing.exists_left h.metrics hmetric
  rw [names_of_resolveMetric hresolve]
  exact MetricName.otel_eq_empty_iff

end Resolution

namespace Decl

open Expansion Scanned

variable {d x : Document} {config : Config} {r : Registry}

/-- The names of a configuration are all there exactly if its document keeps them. -/
theorem Document.named_iff (hexpand : ExpandsTo r d x) {s : Scope}
    {bases : List (String × MetricBase)} (h : Settled x config s bases) :
    config.Named ↔ d.KeepsNames r.domain := by
  have hmetrics : (∀ m ∈ d.metrics, Lasting r.domain (Metric.label.texts m)) ↔
      ∀ metric ∈ config.metrics, metric.names.prometheus ≠ "" := by
    rw [← no_blank_copy_iff hexpand.metrics]
    change (¬ ∃ m ∈ x.metrics, ∀ t ∈ m.name.strings, t = "") ↔ _
    rw [← h.exists_unnamed_iff]
    push Not
    rfl
  have hclocks := h.clocks.empty_notMem_iff Clock.label fun _ ↦ getD_eq_empty_iff
  have hsources := h.sources.empty_notMem_iff Source.label fun _ ↦ getD_eq_empty_iff
  have hvalues := h.values.empty_notMem_iff Value.label fun _ ↦ getD_eq_empty_iff
  rw [no_blank_copy_iff hexpand.instanceClocks] at hclocks
  rw [no_blank_copy_iff hexpand.instanceSources] at hsources
  rw [no_blank_copy_iff hexpand.instanceValues] at hvalues
  have hshared := h.instances
  constructor
  · intro hnamed
    exact {
      metrics := hmetrics.mpr hnamed.prometheus
      clocks := hclocks.mp (by simpa [hshared] using hnamed.clocks)
      sources := hsources.mp (by simpa [hshared] using hnamed.sources)
      values := hvalues.mp (by simpa [hshared] using hnamed.values) }
  · intro hkept
    exact {
      prometheus := hmetrics.mp hkept.metrics
      otel := fun metric hmetric hempty ↦
        hmetrics.mp hkept.metrics metric hmetric ((h.otel_eq_empty_iff hmetric).mp hempty)
      clocks := by simpa [hshared] using hclocks.mpr hkept.clocks
      sources := by simpa [hshared] using hsources.mpr hkept.sources
      values := by simpa [hshared] using hvalues.mpr hkept.values }

/-- With no empty value a document that passes the checks keeps its names. -/
theorem Document.keepsNames_of_check (h : d.check = .ok ()) {domain : String → List String}
    (hdomain : ∀ n, "" ∉ domain n) : d.KeepsNames domain := by
  obtain ⟨-, hmetrics, -, hclocks, -, hsources, -, hvalues, -⟩ := check_eq_ok_iff.mp h
  have hlasting : ∀ l : List String, (¬ ∀ t ∈ l, t = "") → Lasting domain l := by
    intro l hl
    push Not at hl
    obtain ⟨t, ht, hne⟩ := hl
    exact ⟨t, ht, fun hblank ↦ hne (hblank.eq_empty hdomain)⟩
  have hnamed : ∀ o, Named o → Lasting domain o.toList := by
    intro o ho
    refine hlasting _ fun hempty ↦ ?_
    rw [Named, nonEmpty_eq_none_iff.mpr hempty] at ho
    simp at ho
  exact {
    metrics := fun m hm ↦
      hlasting _ fun hempty ↦ (hmetrics m hm).1 (MetricName.strings_eq_empty_iff.mp hempty)
    clocks := fun c hc ↦ hnamed _ (hclocks c hc)
    sources := fun s hs ↦ hnamed _ (hsources s hs).1
    values := fun v hv ↦ hnamed _ (hvalues v hv).1 }

/-- Names that the checks accept are still there after compilation exactly if the document keeps
them, and certainly if no iterator has the empty value. -/
theorem Document.names_of_compile (hcheck : d.check = .ok ()) (h : d.compile = .ok config) :
    ∃ r, Registry.ofDomains d.iterators = .ok r ∧
      (config.Named ↔ d.KeepsNames r.domain) ∧ ((∀ n, "" ∉ r.domain n) → config.Named) := by
  obtain ⟨x, hexpand, hresolve⟩ := compile_eq_ok_iff.mp h
  obtain ⟨r, hr, hexpands⟩ := expand_eq_ok_iff.mp hexpand
  obtain ⟨s, bases, hsettled⟩ := settled_of_resolve hresolve
  have hnamed := named_iff hexpands hsettled
  exact ⟨r, hr, hnamed, fun hdomain ↦ hnamed.mpr (keepsNames_of_check hcheck hdomain)⟩

end Decl

/-! ### A demonstration

The iterator `x` has the empty value, so a metric and a clock lose their names. -/

namespace Demo

def nameless : Decl.Document where
  iterators := [("x", .values [.text ""])]
  instances := {
    clocks := [{ name := some "{x}", kind := some "periodic", interval := some (.ofSeconds 1) }] }
  metrics := [
    { name := .same "{x}", kind := some "gauge", description := some "d"
      value := some {
        source := some {
          kind := some "random_int", clock := some { instanceName := some "{x}" } } } }]

def namelessConfig : Config where
  instances := ⟨[("", ⟨"periodic", .ofSeconds 1⟩)], [], []⟩
  metrics := [
    ⟨⟨"", ""⟩, .gauge, "d",
      { source := {
          kind := "random_int", clock := some ⟨"periodic", .ofSeconds 1⟩, clockRef := some "" } },
      []⟩]
  exporter := .pull {}
  settings := { seed := none, internalMetrics := ⟨false, .prometheus⟩ }

/-- The checks accept names that are empty after compilation. -/
theorem nameless_compiles :
    nameless.check = .ok () ∧ nameless.compile = .ok namelessConfig ∧ ¬ namelessConfig.Named := by
  refine ⟨by with_unfolding_all rfl, by with_unfolding_all rfl, fun hnamed ↦ ?_⟩
  exact hnamed.prometheus _ (List.mem_singleton_self _) rfl

/-- So the document of the nameless metric does not keep its names. -/
theorem nameless_names :
    nameless.check = .ok () ∧ nameless.compile = .ok namelessConfig ∧
      ∃ r, Registry.ofDomains nameless.iterators = .ok r ∧
        (namelessConfig.Named ↔ nameless.KeepsNames r.domain) ∧
          ((∀ n, "" ∉ r.domain n) → namelessConfig.Named) :=
  have hcheck : nameless.check = .ok () := by with_unfolding_all rfl
  have hcompile : nameless.compile = .ok namelessConfig := by with_unfolding_all rfl
  ⟨hcheck, hcompile, Decl.Document.names_of_compile hcheck hcompile⟩

end Demo

end TelemetrySim
