import Mathlib.Logic.Relation
import TelemetrySim.Proofs.Pattern

/-!
References inside other entries. A metric holds a value, a value a source and a clock, a source a
clock; every such part is a reference and has the form of an entry itself. `Decl.Entry.Inside` is
the relation of an entry to the references it holds at any depth.
-/

set_option autoImplicit false
set_option relaxedAutoImplicit false

namespace TelemetrySim.Decl.Entry

def kind : Entry → EntityKind
  | clock _ => .clock
  | source _ => .source
  | value _ => .value
  | metricTemplate _ => .metric
  | metric _ => .metric

/-- The template that an entry names in its own field. -/
def base? (e : Entry) : Option String := e.referredAt (.own .template)

/-- The references that an entry holds itself. -/
def parts : Entry → List Entry
  | clock _ => []
  | source s => s.clock.toList.map clock
  | value v => v.source.toList.map source ++ v.clock.toList.map clock
  | metricTemplate m => m.value.toList.map value
  | metric m => m.value.toList.map value

/-- The entry holds the reference at some depth. -/
def Inside : Entry → Entry → Prop := Relation.TransGen fun e r ↦ r ∈ e.parts

theorem inside_iff {e r : Entry} : e.Inside r ↔ ∃ p ∈ e.parts, r = p ∨ p.Inside r := by
  rw [Inside, Relation.TransGen.head'_iff]
  constructor
  · rintro ⟨p, hp, hr⟩
    rcases Relation.reflTransGen_iff_eq_or_transGen.mp hr with hr | hr
    · exact ⟨p, hp, .inl hr⟩
    · exact ⟨p, hp, .inr hr⟩
  · rintro ⟨p, hp, rfl | hr⟩
    · exact ⟨r, hp, .refl⟩
    · exact ⟨p, hp, hr.to_reflTransGen⟩

theorem Inside.of_part {e p : Entry} (h : p ∈ e.parts) : e.Inside p := .single h

theorem Inside.of_parts {e p r : Entry} (h : p ∈ e.parts) (hr : p.Inside r) : e.Inside r :=
  .head h hr

end TelemetrySim.Decl.Entry
