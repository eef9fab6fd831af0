import TelemetrySim.Proofs.Naming
import TelemetrySim.Proofs.Parts
import TelemetrySim.Proofs.Resolution.Names

/-!
The checks on names against what they are for. `Decl.Document.WellFormed` says which documents are
in order, with no regard to how they are looked through; `Decl.Document.Has` says what each flaw
means. The checks accept exactly the documents that are in order, and a flaw that they report is one
that the document has (`Decl.Document.check_decides_wellFormed`).
-/

set_option autoImplicit false
set_option relaxedAutoImplicit false

namespace TelemetrySim.Decl

open Outcome

/-! ### Entries without named references -/

namespace Entry

/-- No reference in the entry has a name, at whatever depth. -/
def Anonymous (e : Entry) : Prop := ∀ r, e.Inside r → r.name? = none

theorem anonymous_iff {e : Entry} :
    e.Anonymous ↔ ∀ p ∈ e.parts, p.name? = none ∧ p.Anonymous := by
  constructor
  · intro h p hp
    exact ⟨h p (.of_part hp), fun r hr ↦ h r (.of_parts hp hr)⟩
  · intro h r hr
    obtain ⟨p, hp, rfl | hr⟩ := inside_iff.mp hr
    · exact (h r hp).1
    · exact (h p hp).2 r hr

theorem anonymous_clock (c : Clock) : (clock c).Anonymous := by
  rw [anonymous_iff]
  simp [parts]

theorem anonymous_source_iff {s : Source} :
    (source s).Anonymous ↔ ∀ c, s.clock = some c → c.name = none := by
  rw [anonymous_iff]
  simp [parts, name?, anonymous_clock]

theorem anonymous_value_iff {v : Value} : (value v).Anonymous ↔ v.PartsUnnamed := by
  rw [anonymous_iff]
  simp only [parts, List.forall_mem_append, List.forall_mem_map, Option.mem_toList, name?,
    anonymous_source_iff, anonymous_clock, and_true, Value.PartsUnnamed, Source.Unnamed]

theorem anonymous_metricTemplate_iff {m : MetricTemplate} :
    (metricTemplate m).Anonymous ↔ ∀ v, m.value = some v → v.Unnamed := by
  rw [anonymous_iff]
  simp only [parts, List.forall_mem_map, Option.mem_toList, name?, anonymous_value_iff,
    Value.Unnamed]

theorem anonymous_metric_iff {m : Metric} :
    (metric m).Anonymous ↔ ∀ v, m.value = some v → v.Unnamed := by
  rw [anonymous_iff]
  simp only [parts, List.forall_mem_map, Option.mem_toList, name?, anonymous_value_iff,
    Value.Unnamed]

end Entry

/-! ### Documents that are in order -/

/-- A document as it should be: it has a metric, every metric has a text in its name, every
declaration has a name that is not empty, and no reference has one. -/
structure Document.WellFormed (d : Document) : Prop where
  metrics : d.metrics ≠ []
  metricNames : ∀ m ∈ d.metrics, ∃ text ∈ m.name.strings, text ≠ ""
  names : ∀ s, s ≠ .metrics → ∀ e ∈ d.entries s, ∃ name, e.name? = some name ∧ name ≠ ""
  references : ∀ s, ∀ e ∈ d.entries s, ∀ r, e.Inside r → r.name? = none

theorem named_iff_exists {o : Option String} : Named o ↔ ∃ name, o = some name ∧ name ≠ "" := by
  rw [Named, Option.isSome_iff_ne_none, Ne, nonEmpty_eq_none_iff]
  cases o <;> simp

theorem MetricName.prometheus_ne_empty_iff {n : MetricName} :
    n.prometheus ≠ "" ↔ ∃ text ∈ n.strings, text ≠ "" := by
  rw [Ne, ← strings_eq_empty_iff]
  simp

namespace Document

variable {d : Document}

theorem forall_sections_iff {p : Section → Prop} :
    (∀ s, p s) ↔
      p .metrics ∧ p .templateClocks ∧ p .instanceClocks ∧ p .templateSources ∧
        p .instanceSources ∧ p .templateValues ∧ p .instanceValues ∧ p .templateMetrics := by
  constructor
  · intro h
    exact ⟨h _, h _, h _, h _, h _, h _, h _, h _⟩
  · rintro ⟨h₁, h₂, h₃, h₄, h₅, h₆, h₇, h₈⟩ s
    cases s <;> assumption

theorem check_eq_ok_iff_wellFormed : d.check = .ok () ↔ d.WellFormed := by
  have hform : d.WellFormed ↔ d.metrics ≠ [] ∧ (∀ m ∈ d.metrics, m.name.prometheus ≠ "") ∧
      ∀ s, (s ≠ .metrics → ∀ e ∈ d.entries s, Named e.name?) ∧ ∀ e ∈ d.entries s, e.Anonymous := by
    simp only [MetricName.prometheus_ne_empty_iff, named_iff_exists]
    exact ⟨fun h ↦ ⟨h.metrics, h.metricNames, fun s ↦ ⟨h.names s, h.references s⟩⟩,
      fun ⟨hmetrics, hnames, h⟩ ↦ ⟨hmetrics, hnames, fun s ↦ (h s).1, fun s ↦ (h s).2⟩⟩
  rw [check_eq_ok_iff, hform, forall_sections_iff]
  simp only [entries, List.forall_mem_map, Entry.name?, Entry.anonymous_clock,
    Entry.anonymous_source_iff, Entry.anonymous_value_iff, Entry.anonymous_metricTemplate_iff,
    Entry.anonymous_metric_iff, Metric.WellNamed, Source.WellNamed, Value.WellNamed,
    MetricTemplate.WellNamed, forall_and, ne_eq, reduceCtorEq, not_true_eq_false,
    not_false_eq_true, forall_const, false_implies, implies_true, true_and, and_true, and_assoc]

end Document

/-! ### Flaws -/

/-- What kind of reference an entry is inside another one. -/
def Entry.target? : Entry → Option Target
  | clock _ => some .clock
  | source _ => some .source
  | value _ => some .value
  | metricTemplate _ => none
  | metric _ => none

/-- The entry that holds a reference, by the way it is called in messages. -/
def Document.Owns (d : Document) : Owner → Entry → Prop
  | .metric name, e => ∃ m ∈ d.metrics, m.name.prometheus = name ∧ e = .metric m
  | .entry s i, e => (d.entries s)[i]? = some e

/-- What a flaw says is so in the document. -/
def Document.Has (d : Document) : Flaw → Prop
  | .noMetrics => d.metrics = []
  | .unnamedMetric i => ∃ m, d.metrics[i]? = some m ∧ ∀ text ∈ m.name.strings, text = ""
  | .unnamed s i =>
    s ≠ .metrics ∧ ∃ e, (d.entries s)[i]? = some e ∧ ∀ name, e.name? = some name → name = ""
  | .namedReference owner target =>
    ∃ e r, d.Owns owner e ∧ e.Inside r ∧ r.target? = some target ∧ r.name? ≠ none

/-! ### Single checks -/

section Checks

variable {α : Type} {E : Flaw → Prop} {owner : Owner} {target : Target}

theorem blames_checkOption {f : α → Check} {a : Option α}
    (h : ∀ x, a = some x → Blames E (f x)) : Blames E (checkOption f a) := by
  cases a with
  | none => exact .ok ()
  | some x => exact h x rfl

/-- Checks are made with the index of what is checked. -/
theorem blames_checkEach {f : Nat → α → Check} {l : List α} {k : Nat}
    (h : ∀ i a, l[i]? = some a → Blames E (f (k + i) a)) : Blames E (checkEach f k l) := by
  induction l generalizing k with
  | nil => exact .ok ()
  | cons a rest ih =>
    refine (h 0 a rfl).bind fun _ _ ↦ ih fun i b hb ↦ ?_
    have hnext := h (i + 1) b hb
    rwa [Nat.add_comm i 1, ← Nat.add_assoc] at hnext

theorem blames_checkUnnamed {name : Option String}
    (h : name ≠ none → E (.namedReference owner target)) :
    Blames E (checkUnnamed owner target name) := by
  rw [checkUnnamed]
  split
  next hname => exact .error (h (Option.isSome_iff_ne_none.mp hname))
  next => exact .ok ()

theorem blames_checkNamed {s : Section} {i : Nat} {name : Option String}
    (h : (∀ n, name = some n → n = "") → E (.unnamed s i)) : Blames E (checkNamed s i name) := by
  rw [checkNamed]
  split
  next => exact .ok ()
  next hname =>
    refine .error (h fun n hn ↦ ?_)
    rw [Bool.not_eq_true, Option.isSome_eq_false_iff, Option.isNone_iff_eq_none,
      nonEmpty_eq_none_iff] at hname
    exact hname n (Option.mem_toList.mpr hn)

end Checks

/-! ### References -/

section References

variable {E : Flaw → Prop} {owner : Owner} {e : Entry}

/-- Every reference inside the entry is one to blame for a name. -/
def Entry.Answers (E : Flaw → Prop) (owner : Owner) (e : Entry) : Prop :=
  ∀ r target, e.Inside r → r.target? = some target → r.name? ≠ none →
    E (.namedReference owner target)

theorem Entry.Answers.part (h : e.Answers E owner) {p : Entry} (hp : p ∈ e.parts) :
    p.Answers E owner :=
  fun r target hr ↦ h r target (.of_parts hp hr)

theorem Entry.Answers.blames (h : e.Answers E owner) {p : Entry} (hp : p ∈ e.parts)
    {target : Target} (htarget : p.target? = some target) :
    Blames E (checkUnnamed owner target p.name?) :=
  blames_checkUnnamed (h p target (.of_part hp) htarget)

theorem Clock.blames_checkReference {c : Clock} (h : e.Answers E owner)
    (hc : .clock c ∈ e.parts) : Blames E (c.checkReference owner) :=
  h.blames hc rfl

theorem Source.blames_checkReference {s : Source} (h : e.Answers E owner)
    (hs : .source s ∈ e.parts) : Blames E (s.checkReference owner) := by
  refine (h.blames hs rfl).bind fun _ _ ↦ blames_checkOption fun c hc ↦ ?_
  exact Clock.blames_checkReference (h.part hs) (by simp [Entry.parts, hc])

theorem Value.blames_checkParts {v : Value} (h : (Entry.value v).Answers E owner) :
    Blames E (v.checkParts owner) := by
  refine (blames_checkOption fun s hs ↦ ?_).bind fun _ _ ↦ blames_checkOption fun c hc ↦ ?_
  · exact Source.blames_checkReference h (by simp [Entry.parts, hs])
  · exact Clock.blames_checkReference h (by simp [Entry.parts, hc])

theorem Value.blames_checkReference {v : Value} (h : e.Answers E owner)
    (hv : .value v ∈ e.parts) : Blames E (v.checkReference owner) :=
  (h.blames hv rfl).bind fun _ _ ↦ blames_checkParts (h.part hv)

end References

/-! ### Documents -/

namespace Document

variable {d : Document} {s : Section} {i : Nat}

theorem answers_of_owns {owner : Owner} {e : Entry} (h : d.Owns owner e) :
    e.Answers d.Has owner :=
  fun r _ hr htarget hname ↦ ⟨e, r, h, hr, htarget, hname⟩

theorem exists_section_of_owns {owner : Owner} {e : Entry} (h : d.Owns owner e) :
    ∃ s, e ∈ d.entries s := by
  cases owner with
  | metric name =>
    obtain ⟨m, hm, -, rfl⟩ := h
    exact ⟨.metrics, List.mem_map_of_mem hm⟩
  | entry s i => exact ⟨s, List.mem_of_getElem? h⟩

theorem blames_checkNamed_of_entry (hs : s ≠ .metrics) {e : Entry}
    (he : (d.entries s)[i]? = some e) : Blames d.Has (checkNamed s i e.name?) :=
  blames_checkNamed fun hname ↦ ⟨hs, e, he, hname⟩

/-- The clocks of a list are checked. -/
theorem blames_clocks (hs : s ≠ .metrics) {l : List Clock} (hl : d.entries s = l.map .clock) :
    Blames d.Has (checkEach (Clock.check s) 0 l) := by
  refine blames_checkEach fun i c hc ↦ ?_
  have he : (d.entries s)[0 + i]? = some (.clock c) := by simp [hl, hc]
  exact blames_checkNamed_of_entry hs he

theorem blames_sources (hs : s ≠ .metrics) {l : List Source} (hl : d.entries s = l.map .source) :
    Blames d.Has (checkEach (Source.check s) 0 l) := by
  refine blames_checkEach fun i x hx ↦ ?_
  have he : (d.entries s)[0 + i]? = some (.source x) := by simp [hl, hx]
  have howns : d.Owns (.entry s (0 + i)) (.source x) := he
  refine (blames_checkNamed_of_entry hs he).bind fun _ _ ↦ blames_checkOption fun c hc ↦ ?_
  exact Clock.blames_checkReference (answers_of_owns howns) (by simp [Entry.parts, hc])

theorem blames_values (hs : s ≠ .metrics) {l : List Value} (hl : d.entries s = l.map .value) :
    Blames d.Has (checkEach (Value.check s) 0 l) := by
  refine blames_checkEach fun i v hv ↦ ?_
  have he : (d.entries s)[0 + i]? = some (.value v) := by simp [hl, hv]
  have howns : d.Owns (.entry s (0 + i)) (.value v) := he
  exact (blames_checkNamed_of_entry hs he).bind fun _ _ ↦
    Value.blames_checkParts (answers_of_owns howns)

theorem blames_metricTemplates :
    Blames d.Has (checkEach MetricTemplate.check 0 d.templates.metrics) := by
  refine blames_checkEach fun i m hm ↦ ?_
  have he : (d.entries .templateMetrics)[0 + i]? = some (.metricTemplate m) := by
    simp [entries, hm]
  have howns : d.Owns (.entry .templateMetrics (0 + i)) (.metricTemplate m) := he
  refine (blames_checkNamed_of_entry (by simp) he).bind fun _ _ ↦ blames_checkOption fun v hv ↦ ?_
  exact Value.blames_checkReference (answers_of_owns howns) (by simp [Entry.parts, hv])

theorem blames_metrics : Blames d.Has (checkEach Metric.check 0 d.metrics) := by
  refine blames_checkEach fun i m hm ↦ ?_
  have howns : d.Owns (.metric m.name.prometheus) (.metric m) :=
    ⟨m, List.mem_of_getElem? hm, rfl, rfl⟩
  have hvalue : Blames d.Has (checkOption (Value.checkReference (.metric m.name.prometheus))
      m.value) := by
    refine blames_checkOption fun v hv ↦ ?_
    exact Value.blames_checkReference (answers_of_owns howns) (by simp [Entry.parts, hv])
  rw [Metric.check]
  split
  next hname =>
    refine .error ⟨m, by simpa using hm, MetricName.strings_eq_empty_iff.mpr hname⟩
  next => exact hvalue

theorem blames_check : Blames d.Has d.check := by
  have hrest : Blames d.Has (do
      checkEach Metric.check 0 d.metrics
      checkEach (Clock.check .templateClocks) 0 d.templates.clocks
      checkEach (Clock.check .instanceClocks) 0 d.instances.clocks
      checkEach (Source.check .templateSources) 0 d.templates.sources
      checkEach (Source.check .instanceSources) 0 d.instances.sources
      checkEach (Value.check .templateValues) 0 d.templates.values
      checkEach (Value.check .instanceValues) 0 d.instances.values
      checkEach MetricTemplate.check 0 d.templates.metrics) :=
    blames_metrics.bind fun _ _ ↦ (blames_clocks (by simp) rfl).bind fun _ _ ↦
      (blames_clocks (by simp) rfl).bind fun _ _ ↦ (blames_sources (by simp) rfl).bind fun _ _ ↦
      (blames_sources (by simp) rfl).bind fun _ _ ↦ (blames_values (by simp) rfl).bind fun _ _ ↦
      (blames_values (by simp) rfl).bind fun _ _ ↦ blames_metricTemplates
  rw [check]
  split
  next hempty => exact .error (List.isEmpty_iff.mp hempty)
  next => exact hrest

/-- A document is in order exactly if it has none of the flaws. -/
theorem wellFormed_iff : d.WellFormed ↔ ∀ flaw, ¬ d.Has flaw := by
  constructor
  · intro h flaw hflaw
    cases flaw with
    | noMetrics => exact h.metrics hflaw
    | unnamedMetric i =>
      obtain ⟨m, hm, hblank⟩ := hflaw
      obtain ⟨text, htext, hne⟩ := h.metricNames m (List.mem_of_getElem? hm)
      exact hne (hblank text htext)
    | unnamed s i =>
      obtain ⟨hs, e, he, hblank⟩ := hflaw
      obtain ⟨name, hname, hne⟩ := h.names s hs e (List.mem_of_getElem? he)
      exact hne (hblank name hname)
    | namedReference owner target =>
      obtain ⟨e, r, howns, hr, -, hname⟩ := hflaw
      obtain ⟨s, he⟩ := exists_section_of_owns howns
      exact hname (h.references s e he r hr)
  · intro h
    rw [← check_eq_ok_iff_wellFormed]
    cases hcheck : d.check with
    | ok u => rfl
    | error flaw => exact absurd (blames_check flaw hcheck) (h flaw)

/-- The checks accept exactly the documents that are in order, and report a flaw of any other. -/
theorem check_decides_wellFormed : (d.check = .ok () ↔ d.WellFormed) ∧
    (¬ d.WellFormed → ∃ flaw, d.check = .error flaw ∧ d.Has flaw) := by
  refine ⟨check_eq_ok_iff_wellFormed, fun hd ↦ ?_⟩
  rw [← check_eq_ok_iff_wellFormed] at hd
  cases h : d.check with
  | ok u => exact absurd h hd
  | error flaw => exact ⟨flaw, rfl, blames_check flaw h⟩

example :
    let source : Source := { clock := some { name := some "c" } }
    check { metrics := [{ name := .same "load", value := some { source := some source } }] } =
      .error (.namedReference (.metric "load") .clock) := by with_unfolding_all rfl

end Document

end TelemetrySim.Decl
