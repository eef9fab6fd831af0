import TelemetrySim.Proofs.Appearance
import TelemetrySim.Proofs.Expansion
import TelemetrySim.Proofs.Product
import TelemetrySim.Proofs.Scanned

/-!
Expansion by its definition. An entry without placeholders stays; any other is replaced by one copy
for each choice of values for its placeholders, taken in the order of their first appearance
(`expandEntry_eq_choices`). What a copy is, is said for each kind of declaration field by field:
`strings` lists the texts that are scanned, at every depth, and `Rewritten` says that a copy has
exactly those texts rewritten and everything else as it was.
-/

set_option autoImplicit false
set_option relaxedAutoImplicit false

namespace TelemetrySim

open Outcome

/-! ### Single entries -/

namespace Expansion

variable {α : Type} [Scanned α] {r : Registry} {a : α} {copies : List α}

theorem names_subset_placeholders {t : String} (ht : t ∈ Scanned.texts a) {n : String}
    (hn : n ∈ Placeholder.names t) : n ∈ Scanned.placeholders a :=
  List.mem_eraseDups.mpr (List.mem_flatMap.mpr ⟨t, ht, hn⟩)

theorem expandEntry_eq_choices (h : expandEntry r a = .ok copies)
    (hnames : Scanned.placeholders a ≠ []) :
    (∀ n ∈ Scanned.placeholders a, r.domain? n = some (r.domain n) ∧ r.domain n ≠ []) ∧
      copies = (choices r.domain (Scanned.placeholders a)).map fun x ↦
        Scanned.mapTexts (Placeholder.substitute x) a := by
  obtain ⟨c, n, shown, hc, htotal, hn, hshown, rfl⟩ := (expandEntry_eq_ok_iff hnames).mp h
  obtain ⟨hdeclared, hiterators⟩ := Registry.combinations_ok hc
  refine ⟨fun n' hn' ↦ ⟨hdeclared n' hn', fun hempty ↦ hn ?_⟩, ?_⟩
  · refine (Combinations.eq_zero_iff_of_prod (c.total_decides.gives htotal)).mpr ?_
    rw [Combinations.sizes, hiterators, List.map_map]
    exact List.mem_map.mpr ⟨n', hn', by simp [hempty]⟩
  · rw [Combinations.all_eq_choices hiterators (firstAppearance_eraseDups _).nodup hshown]

theorem expandEntry_eq_self (h : expandEntry r a = .ok copies)
    (hnames : Scanned.placeholders a = []) : copies = [a] :=
  Except.ok.inj (h.symm.trans (expandEntry_of_nil hnames))

/-- What the copies of an entry are: the entry itself if it has no placeholders, else one rewritten
copy for each choice of values, in the order of the choices. -/
structure Block (domain : String → List String)
    (Rewritten : (String → String) → α → α → Prop) (order : List String) (a : α)
    (copies : List α) : Prop where
  unchanged : order = [] → copies = [a]
  rewritten : order ≠ [] →
    List.Forall₂ (fun x b ↦ Rewritten (Placeholder.substitute x) a b) (choices domain order) copies
  count : copies.length = (order.map fun n ↦ (domain n).length).prod

/-- The entries are replaced, each in its place, by their copies. -/
def ByProduct (domain : String → List String) (strings : α → List String)
    (Rewritten : (String → String) → α → α → Prop) (entries out : List α) : Prop :=
  ∃ blocks, List.Forall₂ (fun a copies ↦ ∃ order,
      FirstAppearance ((strings a).flatMap Placeholder.names) order ∧
        Block domain Rewritten order a copies) entries blocks ∧
    blocks.flatten = out

variable {Rewritten : (String → String) → α → α → Prop}

theorem block_of_expandEntry (hmap : ∀ f a, Rewritten f a (Scanned.mapTexts f a))
    (h : expandEntry r a = .ok copies) :
    Block r.domain Rewritten (Scanned.placeholders a) a copies := by
  by_cases hnames : Scanned.placeholders a = []
  · obtain rfl := expandEntry_eq_self h hnames
    exact ⟨fun _ ↦ rfl, fun hne ↦ absurd hnames hne, by simp [hnames]⟩
  · obtain ⟨-, rfl⟩ := expandEntry_eq_choices h hnames
    refine ⟨fun hempty ↦ absurd hempty hnames, fun _ ↦ ?_, ?_⟩
    · exact List.forall₂_map_right_iff.mpr (List.forall₂_same.mpr fun x _ ↦ hmap _ a)
    · rw [List.length_map, length_choices]

theorem byProduct_of_expandEntries {strings : α → List String} {s : Decl.Section}
    {entries out : List α} (htexts : ∀ a : α, Scanned.texts a = strings a)
    (hmap : ∀ f a, Rewritten f a (Scanned.mapTexts f a))
    (h : expandEntries r s entries = .ok out) :
    ByProduct r.domain strings Rewritten entries out := by
  obtain ⟨blocks, hblocks, hout⟩ := expandEntries_eq_ok_iff.mp h
  refine ⟨blocks, hblocks.imp fun a copies hcopies ↦ ?_, hout⟩
  exact ⟨Scanned.placeholders a, htexts a ▸ firstAppearance_eraseDups _,
    block_of_expandEntry hmap hcopies⟩

end Expansion

/-! ### The texts of a declaration, and its copies -/

namespace Decl

open Scanned

/-- Texts that are there. -/
def written (fields : List (Option String)) : List String := fields.flatMap Option.toList

def Clock.strings (c : Clock) : List String := written [c.name, c.instanceName, c.templateName]

def Source.strings (s : Source) : List String :=
  written [s.name, s.instanceName, s.templateName] ++ s.clock.toList.flatMap Clock.strings

def Value.strings (v : Value) : List String :=
  written [v.name, v.instanceName, v.templateName] ++ v.source.toList.flatMap Source.strings ++
    v.clock.toList.flatMap Clock.strings

def MetricName.strings : MetricName → List String
  | same name => [name]
  | forms p o => written [p, o]

/-- The texts of a metric or a metric template behind its name. -/
def metricStrings (templateName description : Option String) (attributes : Option Attributes)
    (value : Option Value) : List String :=
  written [templateName, description] ++ attributes.toList.flatMap (fun l ↦ l.map (·.2)) ++
    value.toList.flatMap Value.strings

def Metric.strings (m : Metric) : List String :=
  m.name.strings ++ metricStrings m.templateName m.description m.attributes m.value

def MetricTemplate.strings (m : MetricTemplate) : List String :=
  written [m.name] ++ metricStrings m.templateName m.description m.attributes m.value

section Rewritten

variable (f : String → String)

structure Clock.Rewritten (c b : Clock) : Prop where
  name : b.name = c.name.map f
  instanceName : b.instanceName = c.instanceName.map f
  templateName : b.templateName = c.templateName.map f
  kind : b.kind = c.kind
  interval : b.interval = c.interval

structure Source.Rewritten (s b : Source) : Prop where
  name : b.name = s.name.map f
  instanceName : b.instanceName = s.instanceName.map f
  templateName : b.templateName = s.templateName.map f
  clock : Option.Rel (Clock.Rewritten f) s.clock b.clock
  kind : b.kind = s.kind
  min : b.min = s.min
  max : b.max = s.max

structure Value.Rewritten (v b : Value) : Prop where
  name : b.name = v.name.map f
  instanceName : b.instanceName = v.instanceName.map f
  templateName : b.templateName = v.templateName.map f
  source : Option.Rel (Source.Rewritten f) v.source b.source
  clock : Option.Rel (Clock.Rewritten f) v.clock b.clock
  transforms : b.transforms = v.transforms
  reset : b.reset = v.reset

inductive MetricName.Rewritten : MetricName → MetricName → Prop
  | same (name : String) : Rewritten (.same name) (.same (f name))
  | forms (p o : Option String) : Rewritten (.forms p o) (.forms (p.map f) (o.map f))

/-- The keys stay in their order, the values are rewritten. -/
def Attributes.Rewritten : Attributes → Attributes → Prop :=
  List.Forall₂ fun p q ↦ q.1 = p.1 ∧ q.2 = f p.2

structure Metric.Rewritten (m b : Metric) : Prop where
  name : m.name.Rewritten f b.name
  templateName : b.templateName = m.templateName.map f
  description : b.description = m.description.map f
  attributes : Option.Rel (Attributes.Rewritten f) m.attributes b.attributes
  value : Option.Rel (Value.Rewritten f) m.value b.value
  kind : b.kind = m.kind

structure MetricTemplate.Rewritten (m b : MetricTemplate) : Prop where
  name : b.name = m.name.map f
  templateName : b.templateName = m.templateName.map f
  description : b.description = m.description.map f
  attributes : Option.Rel (Attributes.Rewritten f) m.attributes b.attributes
  value : Option.Rel (Value.Rewritten f) m.value b.value
  kind : b.kind = m.kind

end Rewritten

/-! ### Scanning and rewriting are what the kinds say -/

section Kinds

variable {α : Type} [Scanned α] {f : String → String}

theorem texts_option {strings : α → List String} (htexts : ∀ a : α, texts a = strings a)
    (o : Option α) : texts o = o.toList.flatMap strings := by
  cases o with
  | none => rfl
  | some a => simpa [texts] using htexts a

theorem rel_mapTexts {R : α → α → Prop} (hmap : ∀ a, R a (mapTexts f a)) (o : Option α) :
    Option.Rel R o (mapTexts f o) := by
  cases o with
  | none => exact .none
  | some a => exact .some (hmap a)

@[simp] theorem texts_optionString (o : Option String) : texts o = o.toList := by
  cases o <;> rfl

theorem Clock.texts_eq (c : Clock) : texts c = c.strings := by
  simp [texts_clock, Clock.strings, written]

theorem Source.texts_eq (s : Source) : texts s = s.strings := by
  simp [texts_source, Source.strings, written, texts_option Clock.texts_eq]

theorem Value.texts_eq (v : Value) : texts v = v.strings := by
  simp [texts_value, Value.strings, written, texts_option Clock.texts_eq,
    texts_option Source.texts_eq]

theorem MetricName.texts_eq (n : MetricName) : texts n = n.strings := by
  cases n with
  | same name => rfl
  | forms p o =>
    show texts p ++ texts o = _
    simp [MetricName.strings, written]

theorem texts_metric (t d : Option String) (a : Option Attributes) (v : Option Value) :
    texts t ++ texts d ++ texts a ++ texts v = metricStrings t d a v := by
  have hattributes : texts a = a.toList.flatMap fun l ↦ l.map (·.2) :=
    texts_option (fun _ ↦ rfl) a
  simp [metricStrings, written, hattributes, texts_option Value.texts_eq]

theorem Metric.texts_eq (m : Metric) : texts m = m.strings := by
  rw [Metric.strings, ← texts_metric, ← MetricName.texts_eq]
  simp only [← List.append_assoc]
  rfl

theorem MetricTemplate.texts_eq (m : MetricTemplate) : texts m = m.strings := by
  have hname : written [m.name] = texts m.name := by simp [written]
  rw [MetricTemplate.strings, ← texts_metric, hname]
  simp only [← List.append_assoc]
  rfl

theorem Clock.rewritten_mapTexts (f : String → String) (c : Clock) :
    c.Rewritten f (mapTexts f c) :=
  ⟨rfl, rfl, rfl, rfl, rfl⟩

theorem Source.rewritten_mapTexts (f : String → String) (s : Source) :
    s.Rewritten f (mapTexts f s) :=
  ⟨rfl, rfl, rfl, rel_mapTexts (Clock.rewritten_mapTexts f) s.clock, rfl, rfl, rfl⟩

theorem Value.rewritten_mapTexts (f : String → String) (v : Value) :
    v.Rewritten f (mapTexts f v) :=
  ⟨rfl, rfl, rfl, rel_mapTexts (Source.rewritten_mapTexts f) v.source,
    rel_mapTexts (Clock.rewritten_mapTexts f) v.clock, rfl, rfl⟩

theorem MetricName.rewritten_mapTexts (f : String → String) (n : MetricName) :
    n.Rewritten f (mapTexts f n) := by
  cases n with
  | same name => exact .same name
  | forms p o => exact .forms p o

theorem Attributes.rewritten_mapTexts (f : String → String) (l : Attributes) :
    l.Rewritten f (mapTexts f l) :=
  List.forall₂_map_right_iff.mpr (List.forall₂_same.mpr fun _ _ ↦ ⟨rfl, rfl⟩)

theorem Metric.rewritten_mapTexts (f : String → String) (m : Metric) :
    m.Rewritten f (mapTexts f m) :=
  ⟨MetricName.rewritten_mapTexts f m.name, rfl, rfl,
    rel_mapTexts (Attributes.rewritten_mapTexts f) m.attributes,
    rel_mapTexts (Value.rewritten_mapTexts f) m.value, rfl⟩

theorem MetricTemplate.rewritten_mapTexts (f : String → String) (m : MetricTemplate) :
    m.Rewritten f (mapTexts f m) :=
  ⟨rfl, rfl, rfl, rel_mapTexts (Attributes.rewritten_mapTexts f) m.attributes,
    rel_mapTexts (Value.rewritten_mapTexts f) m.value, rfl⟩

end Kinds

end Decl

/-! ### All kinds of declarations -/

open Expansion Decl in
/-- With any registry that declarations built, the entries of each kind expand by the product of the
domains last declared. -/
theorem Registry.expands_byProduct {calls : List (String × List String)} {r : Registry}
    (hr : ofCalls calls = .ok r) (s : Decl.Section) :
    (∀ entries out : List Clock, expandEntries r s entries = .ok out →
        ByProduct (lastDeclared calls) Clock.strings Clock.Rewritten entries out) ∧
      (∀ entries out : List Source, expandEntries r s entries = .ok out →
        ByProduct (lastDeclared calls) Source.strings Source.Rewritten entries out) ∧
      (∀ entries out : List Value, expandEntries r s entries = .ok out →
        ByProduct (lastDeclared calls) Value.strings Value.Rewritten entries out) ∧
      (∀ entries out : List MetricTemplate, expandEntries r s entries = .ok out →
        ByProduct (lastDeclared calls) MetricTemplate.strings MetricTemplate.Rewritten entries
          out) ∧
      ∀ entries out : List Metric, expandEntries r s entries = .ok out →
        ByProduct (lastDeclared calls) Metric.strings Metric.Rewritten entries out := by
  rw [← domain_of_ofCalls hr]
  refine ⟨fun entries out h ↦ ?_, fun entries out h ↦ ?_, fun entries out h ↦ ?_,
    fun entries out h ↦ ?_, fun entries out h ↦ ?_⟩
  · exact byProduct_of_expandEntries Clock.texts_eq Clock.rewritten_mapTexts h
  · exact byProduct_of_expandEntries Source.texts_eq Source.rewritten_mapTexts h
  · exact byProduct_of_expandEntries Value.texts_eq Value.rewritten_mapTexts h
  · exact byProduct_of_expandEntries MetricTemplate.texts_eq MetricTemplate.rewritten_mapTexts h
  · exact byProduct_of_expandEntries Metric.texts_eq Metric.rewritten_mapTexts h

/-! ### A demonstration

The iterator `unit` is declared twice. A metric mentions both iterators, `zone` first in its name
and `unit` only in a clock inside its value; another metric mentions none. -/

namespace Demo

def calls : List (String × List String) :=
  [("unit", ["0"]), ("zone", ["east", "west"]), ("unit", ["1", "2"])]

def registry : Registry := ⟨[("unit", ["1", "2"]), ("zone", ["east", "west"])]⟩

def sensor (zone unit : String) : Decl.Metric where
  name := .forms (some ("load_" ++ zone)) none
  kind := some "gauge"
  attributes := some [("zone", zone), ("rack", "r")]
  value := some {
    templateName := some "load"
    source := some { clock := some { instanceName := some ("beat" ++ unit) }, max := some 9 } }

def uptime : Decl.Metric := { name := .same "uptime", templateName := some "base" }

/-- The metric with both placeholders has four copies, those of the first value in front. -/
theorem sensors_byProduct :
    Registry.ofCalls calls = .ok registry ∧
      Expansion.expandEntries registry .metrics [sensor "{zone}" "{unit}", uptime] =
        .ok [sensor "east" "1", sensor "east" "2", sensor "west" "1", sensor "west" "2", uptime] ∧
      Expansion.ByProduct (Registry.lastDeclared calls) Decl.Metric.strings Decl.Metric.Rewritten
        [sensor "{zone}" "{unit}", uptime]
        [sensor "east" "1", sensor "east" "2", sensor "west" "1", sensor "west" "2", uptime] :=
  have hcalls : Registry.ofCalls calls = .ok registry := by with_unfolding_all rfl
  have hexpand : Expansion.expandEntries registry .metrics [sensor "{zone}" "{unit}", uptime] =
      .ok [sensor "east" "1", sensor "east" "2", sensor "west" "1", sensor "west" "2", uptime] := by
    with_unfolding_all rfl
  ⟨hcalls, hexpand, (Registry.expands_byProduct hcalls .metrics).2.2.2.2 _ _ hexpand⟩

end Demo

end TelemetrySim
