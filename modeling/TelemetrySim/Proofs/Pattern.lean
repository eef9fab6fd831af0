import TelemetrySim.Proofs.Placeholder
import TelemetrySim.Proofs.Rewriting
import TelemetrySim.Proofs.Scanned
import TelemetrySim.Resolution.Entity

/-!
References that are written with the pattern of a name. A declaration and an entry that refers to it
are expanded apart, as a rule with different placeholders in different orders. But what a text
becomes depends on its own placeholders only (`Placeholder.substitute_congr`), and a declaration has
a copy for every way to give them values (`exists_agreeing_copy`), so the reference of each copy is
the name of some copy of the declaration.
-/

set_option autoImplicit false
set_option relaxedAutoImplicit false

namespace TelemetrySim

open Outcome

/-- The assignments give the same values to the placeholders of a text. -/
def Placeholder.Agree (text : String) (x y : Assignment) : Prop :=
  ∀ n ∈ names text, x.lookup n = y.lookup n

/-! ### Copies with their assignments -/

namespace Expansion

variable {α β : Type} [Scanned α] [Scanned β] {r : Registry} {s : Decl.Section} {a : α}
  {entries out copies' : List α}

/-- The copies of an entry, each with the values that it was made with. An entry without
placeholders has one copy, with no values. -/
def copies (domain : String → List String) (a : α) : List (Assignment × α) :=
  (choices domain (Scanned.placeholders a)).map fun x ↦
    (x, Scanned.mapTexts (Placeholder.substitute x) a)

theorem expandEntry_eq_copies (hid : ∀ a : α, Scanned.mapTexts id a = a)
    (h : expandEntry r a = .ok copies') :
    copies' = (copies r.domain a).map (·.2) ∧ ∀ n ∈ Scanned.placeholders a, r.domain n ≠ [] := by
  by_cases hnames : Scanned.placeholders a = []
  · have hsubstitute : Placeholder.substitute [] = id := funext Placeholder.substitute_nil
    rw [expandEntry_eq_self h hnames]
    simp [copies, hnames, choices, hsubstitute, hid]
  · obtain ⟨hdeclared, rfl⟩ := expandEntry_eq_choices h hnames
    refine ⟨?_, fun n hn ↦ (hdeclared n hn).2⟩
    rw [copies, List.map_map]
    rfl

/-- Every entry is replaced by its copies, and there are values for its placeholders. -/
theorem expandEntries_eq_copies (hid : ∀ a : α, Scanned.mapTexts id a = a)
    (h : expandEntries r s entries = .ok out) :
    out = (entries.flatMap fun a ↦ (copies r.domain a).map (·.2)) ∧
      ∀ a ∈ entries, ∀ n ∈ Scanned.placeholders a, r.domain n ≠ [] := by
  obtain ⟨blocks, hblocks, rfl⟩ := expandEntries_eq_ok_iff.mp h
  clear h
  induction hblocks with
  | nil => simp
  | cons hfirst _ ih =>
    obtain ⟨hcopies, hdomain⟩ := expandEntry_eq_copies hid hfirst
    rw [List.flatten_cons, List.flatMap_cons, hcopies, ih.1]
    exact ⟨rfl, List.forall_mem_cons.mpr ⟨hdomain, ih.2⟩⟩

/-- To expand entries that are seen as something else is to expand them and see the copies so. -/
theorem expandEntries_map {view : α → β} (htexts : ∀ a, Scanned.texts (view a) = Scanned.texts a)
    (hmap : ∀ f a, Scanned.mapTexts f (view a) = view (Scanned.mapTexts f a))
    (h : expandEntries r s entries = .ok out) :
    expandEntries r s (entries.map view) = .ok (out.map view) := by
  obtain ⟨blocks, hblocks, rfl⟩ := expandEntries_eq_ok_iff.mp h
  refine expandEntries_eq_ok_iff.mpr ⟨blocks.map (List.map view), ?_, ?_⟩
  · refine List.forall₂_map_left_iff.mpr (List.forall₂_map_right_iff.mpr (hblocks.imp ?_))
    intro a copies hcopies
    have hplaceholders : Scanned.placeholders (view a) = Scanned.placeholders a := by
      rw [Scanned.placeholders, htexts, Scanned.placeholders]
    by_cases hnames : Scanned.placeholders a = []
    · rw [expandEntry_eq_self hcopies hnames]
      exact expandEntry_of_nil (hplaceholders.trans hnames)
    · obtain ⟨c, n, shown, hc, hn, hsome, hshown, rfl⟩ := (expandEntry_eq_ok_iff hnames).mp hcopies
      rw [← hplaceholders] at hnames hc
      refine (expandEntry_eq_ok_iff hnames).mpr ⟨c, n, shown, hc, hn, hsome, hshown, ?_⟩
      rw [List.map_map]
      exact List.map_congr_left fun x _ ↦ hmap _ a
  · rw [List.map_flatten]

/-- An entry has a copy for every way to give values to the placeholders of one of its texts. -/
theorem exists_agreeing_copy {domain : String → List String} {text : String}
    (htext : text ∈ Scanned.texts a) (hdomain : ∀ n ∈ Scanned.placeholders a, domain n ≠ [])
    {y : Assignment} (hy : ∀ n ∈ Placeholder.names text, ∃ v ∈ domain n, y.lookup n = some v) :
    ∃ b ∈ copies domain a, Placeholder.Agree text b.1 y := by
  let value (n : String) : String :=
    if n ∈ Placeholder.names text then (y.lookup n).getD "" else (domain n).headD ""
  have hvalue : ∀ n ∈ Scanned.placeholders a, value n ∈ domain n := by
    intro n hn
    by_cases hmem : n ∈ Placeholder.names text
    · obtain ⟨v, hv, hlookup⟩ := hy n hmem
      simpa [value, hmem, hlookup] using hv
    · obtain ⟨v, rest, hfirst⟩ := List.exists_cons_of_ne_nil (hdomain n hn)
      simp [value, hmem, hfirst]
  refine ⟨_, List.mem_map.mpr ⟨_, map_mem_choices hvalue, rfl⟩, fun n hn ↦ ?_⟩
  obtain ⟨v, -, hlookup⟩ := hy n hn
  rw [lookup_map_pair (names_subset_placeholders htext hn)]
  simp [value, hn, hlookup]

/-- What a text of a copy has become depends on the values of its placeholders only. -/
theorem read_copy {domain : String → List String} {r : α → Option String}
    (hread : ∀ f a, r (Scanned.mapTexts f a) = (r a).map f) {text : String}
    (htext : r a = some text) {b : Assignment × α} (hb : b ∈ copies domain a) {y : Assignment}
    (hagree : Placeholder.Agree text b.1 y) : r b.2 = some (Placeholder.substitute y text) := by
  obtain ⟨x, -, rfl⟩ := List.mem_map.mp hb
  rw [hread, htext, Option.map_some, Placeholder.substitute_congr hagree]

end Expansion

/-! ### Entries and what they refer to -/

namespace Decl

open Scanned

/-- An entry of any of the lists of a document. -/
inductive Entry where
  | clock (c : Clock)
  | source (s : Source)
  | value (v : Value)
  | metricTemplate (m : MetricTemplate)
  | metric (m : Metric)
deriving DecidableEq

/-- The entries of a list of the document. -/
def Document.entries (d : Document) : Section → List Entry
  | .templateClocks => d.templates.clocks.map .clock
  | .templateSources => d.templates.sources.map .source
  | .templateValues => d.templates.values.map .value
  | .templateMetrics => d.templates.metrics.map .metricTemplate
  | .instanceClocks => d.instances.clocks.map .clock
  | .instanceSources => d.instances.sources.map .source
  | .instanceValues => d.instances.values.map .value
  | .metrics => d.metrics.map .metric

/-- A place where something is referred to by name: the template or the shared entity of the entry
itself, or the like in its clock, source or value. -/
inductive Place where
  | own (origin : Origin)
  | clock (place : Place)
  | source (place : Place)
  | value (place : Place)
deriving DecidableEq

def Clock.referredAt (c : Clock) : Place → Option String
  | .own .shared => c.instanceName
  | .own .template => c.templateName
  | _ => none

def Source.referredAt (s : Source) : Place → Option String
  | .own .shared => s.instanceName
  | .own .template => s.templateName
  | .clock p => s.clock.bind (·.referredAt p)
  | _ => none

def Value.referredAt (v : Value) : Place → Option String
  | .own .shared => v.instanceName
  | .own .template => v.templateName
  | .clock p => v.clock.bind (·.referredAt p)
  | .source p => v.source.bind (·.referredAt p)
  | _ => none

/-- The template of a metric or a metric template, or a place in its value. -/
def metricReferredAt (templateName : Option String) (v : Option Value) : Place → Option String
  | .own .template => templateName
  | .value p => v.bind (·.referredAt p)
  | _ => none

namespace Entry

instance : Scanned Entry where
  texts
    | .clock c => texts c
    | .source s => texts s
    | .value v => texts v
    | .metricTemplate m => texts m
    | .metric m => texts m
  mapTexts f
    | .clock c => .clock (mapTexts f c)
    | .source s => .source (mapTexts f s)
    | .value v => .value (mapTexts f v)
    | .metricTemplate m => .metricTemplate (mapTexts f m)
    | .metric m => .metric (mapTexts f m)

/-- The name of a declaration. A metric is none. -/
def name? : Entry → Option String
  | clock c => c.name
  | source s => s.name
  | value v => v.name
  | metricTemplate m => m.name
  | metric _ => none

/-- What the entry names at a place. -/
def referredAt : Entry → Place → Option String
  | clock c => c.referredAt
  | source s => s.referredAt
  | value v => v.referredAt
  | metricTemplate m => metricReferredAt m.templateName m.value
  | metric m => metricReferredAt m.templateName m.value

end Entry

/-! ### References are among the texts -/

section Parts

variable {α : Type} [Scanned α] {read : α → Option String} {o : Option α} {text : String}

theorem bind_mapTexts {f : String → String}
    (hread : ∀ a, read (mapTexts f a) = (read a).map f) :
    (mapTexts f o).bind read = (o.bind read).map f := by
  cases o with
  | none => rfl
  | some a => exact hread a

theorem mem_texts_of_bind (hread : ∀ a, read a = some text → text ∈ texts a)
    (h : o.bind read = some text) : text ∈ texts o := by
  cases o with
  | none => simp at h
  | some a => exact hread a h

end Parts

section Places

variable (f : String → String) {text : String} (p : Place)

theorem Clock.referredAt_mapTexts (c : Clock) :
    (mapTexts f c).referredAt p = (c.referredAt p).map f := by
  cases p with
  | own o => cases o <;> rfl
  | clock p => rfl
  | source p => rfl
  | value p => rfl

theorem Source.referredAt_mapTexts (s : Source) :
    (mapTexts f s).referredAt p = (s.referredAt p).map f := by
  cases p with
  | own o => cases o <;> rfl
  | clock p => exact bind_mapTexts (Clock.referredAt_mapTexts f p)
  | source p => rfl
  | value p => rfl

theorem Value.referredAt_mapTexts (v : Value) :
    (mapTexts f v).referredAt p = (v.referredAt p).map f := by
  cases p with
  | own o => cases o <;> rfl
  | clock p => exact bind_mapTexts (Clock.referredAt_mapTexts f p)
  | source p => exact bind_mapTexts (Source.referredAt_mapTexts f p)
  | value p => rfl

theorem metricReferredAt_mapTexts (templateName : Option String) (v : Option Value) :
    metricReferredAt (templateName.map f) (mapTexts f v) p =
      (metricReferredAt templateName v p).map f := by
  cases p with
  | own o => cases o <;> rfl
  | clock p => rfl
  | source p => rfl
  | value p => exact bind_mapTexts (Value.referredAt_mapTexts f p)

theorem Entry.referredAt_mapTexts (e : Entry) :
    (mapTexts f e).referredAt p = (e.referredAt p).map f := by
  cases e with
  | clock c => exact c.referredAt_mapTexts f p
  | source s => exact s.referredAt_mapTexts f p
  | value v => exact v.referredAt_mapTexts f p
  | metricTemplate m => exact metricReferredAt_mapTexts f p m.templateName m.value
  | metric m => exact metricReferredAt_mapTexts f p m.templateName m.value

theorem Entry.name?_mapTexts (e : Entry) : (mapTexts f e).name? = e.name?.map f := by
  cases e <;> rfl

variable {p}

theorem Clock.mem_texts_of_referredAt {c : Clock} (h : c.referredAt p = some text) :
    text ∈ texts c := by
  rw [texts_clock]
  cases p with
  | own o =>
    cases o with
    | shared => simp [show c.instanceName = some text from h]
    | template => simp [show c.templateName = some text from h]
  | clock p => simp [referredAt] at h
  | source p => simp [referredAt] at h
  | value p => simp [referredAt] at h

theorem Source.mem_texts_of_referredAt {s : Source} (h : s.referredAt p = some text) :
    text ∈ texts s := by
  rw [texts_source]
  cases p with
  | own o =>
    cases o with
    | shared => simp [show s.instanceName = some text from h]
    | template => simp [show s.templateName = some text from h]
  | clock p =>
    have hclock : text ∈ texts s.clock :=
      mem_texts_of_bind (fun _ ↦ Clock.mem_texts_of_referredAt) h
    exact List.mem_append_right _ hclock
  | source p => simp [referredAt] at h
  | value p => simp [referredAt] at h

theorem Value.mem_texts_of_referredAt {v : Value} (h : v.referredAt p = some text) :
    text ∈ texts v := by
  rw [texts_value]
  cases p with
  | own o =>
    cases o with
    | shared => simp [show v.instanceName = some text from h]
    | template => simp [show v.templateName = some text from h]
  | clock p =>
    have hclock : text ∈ texts v.clock :=
      mem_texts_of_bind (fun _ ↦ Clock.mem_texts_of_referredAt) h
    exact List.mem_append_right _ hclock
  | source p =>
    have hsource : text ∈ texts v.source :=
      mem_texts_of_bind (fun _ ↦ Source.mem_texts_of_referredAt) h
    exact List.mem_append_left _ (List.mem_append_right _ hsource)
  | value p => simp [referredAt] at h

theorem mem_texts_of_metricReferredAt {templateName : Option String} {v : Option Value}
    (h : metricReferredAt templateName v p = some text) :
    text ∈ texts templateName ∨ text ∈ texts v := by
  cases p with
  | own o =>
    cases o with
    | shared => simp [metricReferredAt] at h
    | template => exact .inl (by simp [show templateName = some text from h])
  | clock p => simp [metricReferredAt] at h
  | source p => simp [metricReferredAt] at h
  | value p => exact .inr (mem_texts_of_bind (fun _ ↦ Value.mem_texts_of_referredAt) h)

/-- What an entry refers to is scanned. -/
theorem Entry.mem_texts_of_referredAt {e : Entry} (h : e.referredAt p = some text) :
    text ∈ texts e := by
  cases e with
  | clock c => exact Clock.mem_texts_of_referredAt h
  | source s => exact Source.mem_texts_of_referredAt h
  | value v => exact Value.mem_texts_of_referredAt h
  | metricTemplate m =>
    show text ∈ texts m
    rw [texts_metricTemplate]
    rcases mem_texts_of_metricReferredAt h with h | h
    · simp only [List.mem_append, h, true_or, or_true]
    · simp only [List.mem_append, h, or_true]
  | metric m =>
    show text ∈ texts m
    rw [Scanned.texts_metric]
    rcases mem_texts_of_metricReferredAt h with h | h
    · simp only [List.mem_append, h, true_or, or_true]
    · simp only [List.mem_append, h, or_true]

/-- The name of a declaration is scanned. -/
theorem Entry.mem_texts_of_name? {e : Entry} (h : e.name? = some text) : text ∈ texts e := by
  cases e with
  | clock c =>
    show text ∈ texts c
    rw [texts_clock]
    simp [show c.name = some text from h]
  | source s =>
    show text ∈ texts s
    rw [texts_source]
    simp [show s.name = some text from h]
  | value v =>
    show text ∈ texts v
    rw [texts_value]
    simp [show v.name = some text from h]
  | metricTemplate m =>
    show text ∈ texts m
    rw [texts_metricTemplate]
    simp [show m.name = some text from h]
  | metric m => simp [name?] at h

end Places

theorem Entry.mapTexts_id (e : Entry) : mapTexts id e = e := by
  cases e with
  | clock c => exact congrArg Entry.clock (Lawful.mapTexts_id c)
  | source s => exact congrArg Entry.source (Lawful.mapTexts_id s)
  | value v => exact congrArg Entry.value (Lawful.mapTexts_id v)
  | metricTemplate m => exact congrArg Entry.metricTemplate (Lawful.mapTexts_id m)
  | metric m => exact congrArg Entry.metric (Lawful.mapTexts_id m)

end Decl

/-! ### Documents -/

open Expansion Decl

/-- All lists of a document are expanded in the same way. -/
theorem Decl.Document.ExpandsTo.entries {r : Registry} {d x : Decl.Document}
    (h : ExpandsTo r d x) (s : Decl.Section) :
    expandEntries r s (d.entries s) = .ok (x.entries s) := by
  cases s with
  | templateClocks => exact expandEntries_map (fun _ ↦ rfl) (fun _ _ ↦ rfl) h.templateClocks
  | templateSources => exact expandEntries_map (fun _ ↦ rfl) (fun _ _ ↦ rfl) h.templateSources
  | templateValues => exact expandEntries_map (fun _ ↦ rfl) (fun _ _ ↦ rfl) h.templateValues
  | templateMetrics => exact expandEntries_map (fun _ ↦ rfl) (fun _ _ ↦ rfl) h.templateMetrics
  | instanceClocks => exact expandEntries_map (fun _ ↦ rfl) (fun _ _ ↦ rfl) h.instanceClocks
  | instanceSources => exact expandEntries_map (fun _ ↦ rfl) (fun _ _ ↦ rfl) h.instanceSources
  | instanceValues => exact expandEntries_map (fun _ ↦ rfl) (fun _ _ ↦ rfl) h.instanceValues
  | metrics => exact expandEntries_map (fun _ ↦ rfl) (fun _ _ ↦ rfl) h.metrics

/-- What a copy refers to at a place is the name of a copy of a declaration: of every one with the
same values for the placeholders of a text, and there is one. -/
structure Decl.Links (domain : String → List String) (text : String) (place : Place)
    (declared : Entry) (c : Assignment × Entry) : Prop where
  refers : ∃ n, c.2.referredAt place = some n ∧
    ∀ b ∈ copies domain declared, Placeholder.Agree text b.1 c.1 → b.2.name? = some n
  agreeing : ∃ b ∈ copies domain declared, Placeholder.Agree text b.1 c.1

theorem Decl.links_of_copy {domain : String → List String} {declared e : Entry}
    (hdomain : ∀ n ∈ Scanned.placeholders declared, domain n ≠ []) {text : String} {place : Place}
    (hname : declared.name? = some text) (hplace : e.referredAt place = some text)
    {c : Assignment × Entry} (hc : c ∈ copies domain e) :
    Links domain text place declared c where
  refers := by
    refine ⟨Placeholder.substitute c.1 text, ?_, fun b hb hagree ↦ ?_⟩
    · exact read_copy (r := fun e ↦ e.referredAt place)
        (fun f e ↦ e.referredAt_mapTexts f place) hplace hc fun _ _ ↦ rfl
    · exact read_copy (fun f e ↦ e.name?_mapTexts f) hname hb hagree
  agreeing := by
    refine exists_agreeing_copy (Entry.mem_texts_of_name? hname) hdomain fun n hn ↦ ?_
    obtain ⟨x, hx, rfl⟩ := List.mem_map.mp hc
    exact exists_lookup_of_mem_choices hx
      (names_subset_placeholders (Entry.mem_texts_of_referredAt hplace) hn)

/-- A reference that is written with the pattern of a declared name links after expansion. The lists
of the expanded document are the copies of the entries; and where an entry, at whatever place, refers
to something by the very text that is the name of a declaration, each copy of the entry refers to a
copy of the declaration. -/
theorem Decl.Document.patterns_link {d x : Decl.Document} (h : d.expand = .ok x) :
    ∃ r, Registry.ofDomains d.iterators = .ok r ∧
      (∀ s, x.entries s = (d.entries s).flatMap fun e ↦ (copies r.domain e).map (·.2)) ∧
      ∀ s t, ∀ declared ∈ d.entries s, ∀ e ∈ d.entries t, ∀ text place,
        declared.name? = some text → e.referredAt place = some text →
          ∀ c ∈ copies r.domain e, Links r.domain text place declared c := by
  obtain ⟨r, hr, hx⟩ := expand_eq_ok_iff.mp h
  have hcopies := fun s ↦ expandEntries_eq_copies Entry.mapTexts_id (hx.entries s)
  refine ⟨r, hr, fun s ↦ (hcopies s).1, ?_⟩
  intro s t declared hdeclared e _ text place hname hplace c hc
  exact links_of_copy ((hcopies s).2 declared hdeclared) hname hplace hc

/-! ### A demonstration

The source of each zone is shared. A metric mentions it with the pattern of its name, behind another
placeholder that is slower. -/

namespace Demo

def pump (zone : String) : Decl.Source :=
  { name := some ("pump_" ++ zone), kind := some "random_int" }

def flow (unit zone : String) : Decl.Metric where
  name := .same ("flow_" ++ unit ++ "_" ++ zone)
  kind := some "gauge"
  value := some { source := some { instanceName := some ("pump_" ++ zone) } }

def plant : Decl.Document where
  iterators := [("zone", .values [.text "east", .text "west"]), ("unit", .range ⟨1, 3, 1⟩)]
  instances := { sources := [pump "{zone}"] }
  metrics := [flow "{unit}" "{zone}"]

def expandedPlant : Decl.Document := { plant with
  instances := { sources := [pump "east", pump "west"] }
  metrics := [flow "1" "east", flow "1" "west", flow "2" "east", flow "2" "west"] }

/-- The metrics of the demonstration are about the pumps of their zones. -/
theorem plant_links :
    plant.expand = .ok expandedPlant ∧
      ∃ r, Registry.ofDomains plant.iterators = .ok r ∧
        (∀ s, expandedPlant.entries s =
          (plant.entries s).flatMap fun e ↦ (copies r.domain e).map (·.2)) ∧
        ∀ c ∈ copies r.domain (.metric (flow "{unit}" "{zone}")),
          Links r.domain "pump_{zone}" (.value (.source (.own .shared)))
            (.source (pump "{zone}")) c := by
  have hexpand : plant.expand = .ok expandedPlant := by with_unfolding_all rfl
  obtain ⟨r, hr, hcopies, hlinks⟩ := Decl.Document.patterns_link hexpand
  refine ⟨hexpand, r, hr, hcopies, ?_⟩
  exact hlinks .instanceSources .metrics (.source (pump "{zone}"))
    (List.mem_singleton.mpr rfl) (.metric (flow "{unit}" "{zone}")) (List.mem_singleton.mpr rfl)
    "pump_{zone}" (.value (.source (.own .shared))) rfl rfl

end Demo

end TelemetrySim
