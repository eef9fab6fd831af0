import TelemetrySim.Proofs.Expansion

/-!
The references of a document, wherever they stand: values in metrics and their templates, sources in
values, clocks in sources and in values, and all of them again inside other references. Expansion
copies references along with the entry that holds them, so every reference of an expanded document
is a copy of one of the document (`Decl.Document.Copied`).
-/

set_option autoImplicit false
set_option relaxedAutoImplicit false

namespace TelemetrySim

/-! ### Where references stand -/

namespace Decl.Document

variable (d : Document)

def valueReferences : List Value :=
  d.metrics.filterMap (·.value) ++ d.templates.metrics.filterMap (·.value)

/-- The values that are declared and those that are referred to. -/
def values : List Value := d.templates.values ++ d.instances.values ++ d.valueReferences

def sourceReferences : List Source := d.values.filterMap (·.source)

/-- The sources that are declared and those that are referred to. -/
def sources : List Source := d.templates.sources ++ d.instances.sources ++ d.sourceReferences

def clockReferences : List Clock :=
  d.sources.filterMap (·.clock) ++ d.values.filterMap (·.clock)

variable {d}

theorem mem_valueReferences_iff {v : Value} :
    v ∈ d.valueReferences ↔
      (∃ m ∈ d.metrics, m.value = some v) ∨ ∃ m ∈ d.templates.metrics, m.value = some v := by
  simp only [valueReferences, List.mem_append, List.mem_filterMap]

theorem mem_values_iff {v : Value} :
    v ∈ d.values ↔ v ∈ d.templates.values ++ d.instances.values ∨ v ∈ d.valueReferences :=
  List.mem_append

theorem mem_sourceReferences_iff {s : Source} :
    s ∈ d.sourceReferences ↔ ∃ v ∈ d.values, v.source = some s :=
  List.mem_filterMap

theorem mem_sources_iff {s : Source} :
    s ∈ d.sources ↔ s ∈ d.templates.sources ++ d.instances.sources ∨ s ∈ d.sourceReferences :=
  List.mem_append

theorem mem_clockReferences_iff {c : Clock} :
    c ∈ d.clockReferences ↔
      (∃ s ∈ d.sources, s.clock = some c) ∨ ∃ v ∈ d.values, v.clock = some c := by
  simp only [clockReferences, List.mem_append, List.mem_filterMap]

end Decl.Document

/-! ### References are copied -/

namespace Expansion

variable {α β : Type} [Scanned α] [Scanned β]

/-- Every element of the second list is a copy of one of the first. -/
def Copies (l l' : List α) : Prop := ∀ b ∈ l', ∃ a ∈ l, IsCopy a b

theorem Copies.append {l l' m m' : List α} (hl : Copies l l') (hm : Copies m m') :
    Copies (l ++ m) (l' ++ m') := by
  intro b hb
  rcases List.mem_append.mp hb with hb | hb
  · obtain ⟨a, ha, hcopy⟩ := hl b hb
    exact ⟨a, List.mem_append_left _ ha, hcopy⟩
  · obtain ⟨a, ha, hcopy⟩ := hm b hb
    exact ⟨a, List.mem_append_right _ ha, hcopy⟩

/-- A part that is scanned with the whole is copied with the whole. -/
theorem Copies.filterMap {part : α → Option β}
    (hpart : ∀ f a, part (Scanned.mapTexts f a) = (part a).map (Scanned.mapTexts f))
    {l l' : List α} (h : Copies l l') : Copies (l.filterMap part) (l'.filterMap part) := by
  intro y hy
  obtain ⟨b, hb, hy⟩ := List.mem_filterMap.mp hy
  obtain ⟨a, ha, rfl | ⟨f, rfl⟩⟩ := h b hb
  · exact ⟨y, List.mem_filterMap.mpr ⟨b, ha, hy⟩, .inl rfl⟩
  · rw [hpart, Option.map_eq_some_iff] at hy
    obtain ⟨x, hx, rfl⟩ := hy
    exact ⟨x, List.mem_filterMap.mpr ⟨a, ha, hx⟩, .inr ⟨f, rfl⟩⟩

theorem copies_of_expandEntries {r : Registry} {s : Decl.Section} {l l' : List α}
    (h : expandEntries r s l = .ok l') : Copies l l' :=
  fun _ hb ↦ isCopy_of_expandEntries h hb

end Expansion

open Expansion

/-- Every reference of the second document is a copy of one of the first. -/
structure Decl.Document.Copied (d x : Decl.Document) : Prop where
  values : Copies d.valueReferences x.valueReferences
  sources : Copies d.sourceReferences x.sourceReferences
  clocks : Copies d.clockReferences x.clockReferences

theorem Decl.Document.ExpandsTo.copied {d x : Decl.Document} {r : Registry}
    (h : ExpandsTo r d x) : d.Copied x := by
  have hreferences : Copies d.valueReferences x.valueReferences :=
    ((copies_of_expandEntries h.metrics).filterMap fun _ _ ↦ rfl).append
      ((copies_of_expandEntries h.templateMetrics).filterMap fun _ _ ↦ rfl)
  have hvalues : Copies d.values x.values :=
    ((copies_of_expandEntries h.templateValues).append
      (copies_of_expandEntries h.instanceValues)).append hreferences
  have hsourceReferences : Copies d.sourceReferences x.sourceReferences :=
    hvalues.filterMap fun _ _ ↦ rfl
  have hsources : Copies d.sources x.sources :=
    ((copies_of_expandEntries h.templateSources).append
      (copies_of_expandEntries h.instanceSources)).append hsourceReferences
  exact {
    values := hreferences
    sources := hsourceReferences
    clocks := (hsources.filterMap fun _ _ ↦ rfl).append (hvalues.filterMap fun _ _ ↦ rfl) }

end TelemetrySim
