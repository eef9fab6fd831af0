import TelemetrySim.Decl.Naming
import TelemetrySim.Proofs.Outcome
import TelemetrySim.Proofs.References

/-!
What the checks on a document come to. Each check succeeds if and only if what it looks at is in
order (`Decl.Document.check_eq_ok_iff`). They look at every place where a reference can stand, so in
a document that passes no reference has a name (`Decl.Document.Unnamed`), and neither has any in its
expansion.
-/

set_option autoImplicit false
set_option relaxedAutoImplicit false

namespace TelemetrySim

open Outcome

namespace Decl

/-! ### Single checks -/

section Checks

variable {α : Type} {owner : Owner} {target : Target} {s : Section} {i : Nat}

theorem checkUnnamed_eq_ok_iff {name : Option String} :
    checkUnnamed owner target name = .ok () ↔ name = none := by
  cases name with
  | none => simp [checkUnnamed, pure, Except.pure]
  | some n => simp [checkUnnamed]

theorem checkNamed_eq_ok_iff {name : Option String} :
    checkNamed s i name = .ok () ↔ (nonEmpty name).isSome := by
  by_cases h : (nonEmpty name).isSome
  · simp [checkNamed, h, pure, Except.pure]
  · simp [checkNamed, h]

theorem checkOption_eq_ok_iff {f : α → Check} {a : Option α} :
    checkOption f a = .ok () ↔ ∀ x, a = some x → f x = .ok () := by
  cases a with
  | none => simp [checkOption, pure, Except.pure]
  | some x => simp [checkOption]

theorem checkEach_eq_ok_iff {f : Nat → α → Check} {P : α → Prop}
    (hf : ∀ i a, f i a = .ok () ↔ P a) {l : List α} :
    checkEach f i l = .ok () ↔ ∀ a ∈ l, P a := by
  induction l generalizing i with
  | nil => simp [checkEach, pure, Except.pure]
  | cons a rest ih => rw [checkEach, then_eq_ok_iff, hf, ih, List.forall_mem_cons]

end Checks

/-! ### References and declarations -/

/-- Neither the reference nor its clock has a name. -/
def Source.Unnamed (s : Source) : Prop :=
  s.name = none ∧ ∀ c, s.clock = some c → c.name = none

/-- No reference in a value has a name. -/
def Value.PartsUnnamed (v : Value) : Prop :=
  (∀ s, v.source = some s → s.Unnamed) ∧ ∀ c, v.clock = some c → c.name = none

/-- Neither the reference nor any reference in it has a name. -/
def Value.Unnamed (v : Value) : Prop := v.name = none ∧ v.PartsUnnamed

section References

variable {owner : Owner}

theorem Clock.checkReference_eq_ok_iff {c : Clock} :
    c.checkReference owner = .ok () ↔ c.name = none :=
  checkUnnamed_eq_ok_iff

theorem Source.checkReference_eq_ok_iff {s : Source} :
    s.checkReference owner = .ok () ↔ s.Unnamed := by
  rw [checkReference, then_eq_ok_iff, checkUnnamed_eq_ok_iff, checkOption_eq_ok_iff]
  simp only [Clock.checkReference_eq_ok_iff, Unnamed]

theorem Value.checkParts_eq_ok_iff {v : Value} :
    v.checkParts owner = .ok () ↔ v.PartsUnnamed := by
  rw [checkParts, then_eq_ok_iff, checkOption_eq_ok_iff, checkOption_eq_ok_iff]
  simp only [Source.checkReference_eq_ok_iff, Clock.checkReference_eq_ok_iff, PartsUnnamed]

theorem Value.checkReference_eq_ok_iff {v : Value} :
    v.checkReference owner = .ok () ↔ v.Unnamed := by
  rw [checkReference, then_eq_ok_iff, checkUnnamed_eq_ok_iff, checkParts_eq_ok_iff, Unnamed]

end References

/-- The name of a declaration says something. -/
def Named (name : Option String) : Prop := (nonEmpty name).isSome

/-- A metric has a name, and no reference in it has. -/
def Metric.WellNamed (m : Metric) : Prop :=
  m.name.prometheus ≠ "" ∧ ∀ v, m.value = some v → v.Unnamed

def Source.WellNamed (s : Source) : Prop :=
  Named s.name ∧ ∀ c, s.clock = some c → c.name = none

def Value.WellNamed (v : Value) : Prop := Named v.name ∧ v.PartsUnnamed

def MetricTemplate.WellNamed (m : MetricTemplate) : Prop :=
  Named m.name ∧ ∀ v, m.value = some v → v.Unnamed

section Declarations

variable {s : Section} {i : Nat}

theorem Metric.check_eq_ok_iff {m : Metric} : m.check i = .ok () ↔ m.WellNamed := by
  rw [check, WellNamed]
  by_cases h : m.name.prometheus = ""
  · simp [h, throw, throwThe, MonadExceptOf.throw, bind, Except.bind]
  · simp only [h, if_false, checkOption_eq_ok_iff, Value.checkReference_eq_ok_iff]
    simp [h]

theorem Source.check_eq_ok_iff {x : Source} : x.check s i = .ok () ↔ x.WellNamed := by
  rw [check, then_eq_ok_iff, checkNamed_eq_ok_iff, checkOption_eq_ok_iff]
  simp only [Clock.checkReference_eq_ok_iff, WellNamed, Named]

theorem Value.check_eq_ok_iff {v : Value} : v.check s i = .ok () ↔ v.WellNamed := by
  rw [check, then_eq_ok_iff, checkNamed_eq_ok_iff, checkParts_eq_ok_iff, WellNamed, Named]

theorem MetricTemplate.check_eq_ok_iff {m : MetricTemplate} :
    m.check i = .ok () ↔ m.WellNamed := by
  rw [check, then_eq_ok_iff, checkNamed_eq_ok_iff, checkOption_eq_ok_iff]
  simp only [Value.checkReference_eq_ok_iff, WellNamed, Named]

end Declarations

/-! ### Documents -/

namespace Document

variable {d x : Document}

theorem check_eq_ok_iff :
    d.check = .ok () ↔
      d.metrics ≠ [] ∧ (∀ m ∈ d.metrics, m.WellNamed) ∧
        (∀ c ∈ d.templates.clocks, Named c.name) ∧ (∀ c ∈ d.instances.clocks, Named c.name) ∧
        (∀ s ∈ d.templates.sources, s.WellNamed) ∧ (∀ s ∈ d.instances.sources, s.WellNamed) ∧
        (∀ v ∈ d.templates.values, v.WellNamed) ∧ (∀ v ∈ d.instances.values, v.WellNamed) ∧
        ∀ m ∈ d.templates.metrics, m.WellNamed := by
  rw [check]
  by_cases h : d.metrics = []
  · simp [h, throw, throwThe, MonadExceptOf.throw, bind, Except.bind]
  · have hmetric : ∀ i (m : Metric), m.check i = .ok () ↔ m.WellNamed :=
      fun _ _ ↦ Metric.check_eq_ok_iff
    have hclock : ∀ s i (c : Clock), c.check s i = .ok () ↔ Named c.name :=
      fun _ _ _ ↦ checkNamed_eq_ok_iff
    have hsource : ∀ s i (x : Source), x.check s i = .ok () ↔ x.WellNamed :=
      fun _ _ _ ↦ Source.check_eq_ok_iff
    have hvalue : ∀ s i (v : Value), v.check s i = .ok () ↔ v.WellNamed :=
      fun _ _ _ ↦ Value.check_eq_ok_iff
    have hbase : ∀ i (m : MetricTemplate), m.check i = .ok () ↔ m.WellNamed :=
      fun _ _ ↦ MetricTemplate.check_eq_ok_iff
    simp only [List.isEmpty_iff, h, if_false, then_eq_ok_iff, checkEach_eq_ok_iff hmetric,
      checkEach_eq_ok_iff (hclock _), checkEach_eq_ok_iff (hsource _),
      checkEach_eq_ok_iff (hvalue _), checkEach_eq_ok_iff hbase]
    simp [h]

/-- No reference of a document has a name. -/
structure Unnamed (d : Document) : Prop where
  values : ∀ v ∈ d.valueReferences, v.name = none
  sources : ∀ s ∈ d.sourceReferences, s.name = none
  clocks : ∀ c ∈ d.clockReferences, c.name = none

theorem unnamed_of_check (h : d.check = .ok ()) : d.Unnamed := by
  obtain ⟨-, hmetrics, -, -, hsources, hsources', hvalues, hvalues', hbases⟩ := check_eq_ok_iff.mp h
  have hreferences : ∀ v ∈ d.valueReferences, v.Unnamed := by
    intro v hv
    rcases mem_valueReferences_iff.mp hv with ⟨m, hm, hvalue⟩ | ⟨m, hm, hvalue⟩
    · exact (hmetrics m hm).2 v hvalue
    · exact (hbases m hm).2 v hvalue
  have hparts : ∀ v ∈ d.values, v.PartsUnnamed := by
    intro v hv
    rcases mem_values_iff.mp hv with hv | hv
    · rcases List.mem_append.mp hv with hv | hv
      · exact (hvalues v hv).2
      · exact (hvalues' v hv).2
    · exact (hreferences v hv).2
  have hclock : ∀ s ∈ d.sources, ∀ c, s.clock = some c → c.name = none := by
    intro s hs
    rcases mem_sources_iff.mp hs with hs | hs
    · rcases List.mem_append.mp hs with hs | hs
      · exact (hsources s hs).2
      · exact (hsources' s hs).2
    · obtain ⟨v, hv, hsource⟩ := mem_sourceReferences_iff.mp hs
      exact ((hparts v hv).1 s hsource).2
  refine ⟨fun v hv ↦ (hreferences v hv).1, fun s hs ↦ ?_, fun c hc ↦ ?_⟩
  · obtain ⟨v, hv, hsource⟩ := mem_sourceReferences_iff.mp hs
    exact ((hparts v hv).1 s hsource).1
  · rcases mem_clockReferences_iff.mp hc with ⟨s, hs, hc⟩ | ⟨v, hv, hc⟩
    · exact hclock s hs c hc
    · exact (hparts v hv).2 c hc

open Expansion in
/-- Expansion names no reference. -/
theorem Copied.unnamed (h : d.Copied x) (hd : d.Unnamed) : x.Unnamed where
  values v hv := by
    obtain ⟨v', hv', rfl | ⟨f, rfl⟩⟩ := h.values v hv
    · exact hd.values v hv'
    · exact congrArg (Scanned.mapTexts f) (hd.values v' hv')
  sources s hs := by
    obtain ⟨s', hs', rfl | ⟨f, rfl⟩⟩ := h.sources s hs
    · exact hd.sources s hs'
    · exact congrArg (Scanned.mapTexts f) (hd.sources s' hs')
  clocks c hc := by
    obtain ⟨c', hc', rfl | ⟨f, rfl⟩⟩ := h.clocks c hc
    · exact hd.clocks c hc'
    · exact congrArg (Scanned.mapTexts f) (hd.clocks c' hc')

end Document

end Decl

end TelemetrySim
