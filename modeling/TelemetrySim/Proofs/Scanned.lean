import TelemetrySim.Expansion

/-!
Scanning and rewriting agree. A kind of declarations says apart which of its texts are scanned and
how they are rewritten; it is `Lawful` if the texts of what is rewritten are the rewritten texts, if
nothing but texts decides how it is rewritten, and if texts that stay leave the whole as it is. So
the texts that are rewritten are those that are scanned, no more and no fewer (`mapTexts_eq_iff`).
-/

set_option autoImplicit false
set_option relaxedAutoImplicit false

namespace TelemetrySim.Scanned

/-- The texts that are rewritten are those that are scanned. -/
class Lawful (α : Type) [Scanned α] : Prop where
  texts_mapTexts (f : String → String) (a : α) : texts (mapTexts f a) = (texts a).map f
  mapTexts_congr {f g : String → String} {a : α} (h : ∀ t ∈ texts a, f t = g t) :
    mapTexts f a = mapTexts g a
  mapTexts_id (a : α) : mapTexts id a = a

open Lawful

/-- Two ways to rewrite do the same exactly if they do the same to all texts that are scanned. -/
theorem mapTexts_eq_iff {α : Type} [Scanned α] [Lawful α] {f g : String → String} {a : α} :
    mapTexts f a = mapTexts g a ↔ ∀ t ∈ texts a, f t = g t := by
  refine ⟨fun h ↦ ?_, mapTexts_congr⟩
  have hmap : (texts a).map f = (texts a).map g := by
    rw [← texts_mapTexts, h, texts_mapTexts]
  exact List.map_inj_left.mp hmap

/-! ### Texts and attributes -/

instance : Lawful String where
  texts_mapTexts _ _ := rfl
  mapTexts_congr h := h _ (List.mem_singleton.mpr rfl)
  mapTexts_id _ := rfl

instance {α : Type} [Scanned α] [Lawful α] : Lawful (Option α) where
  texts_mapTexts f o := by
    cases o with
    | none => rfl
    | some a => exact texts_mapTexts f a
  mapTexts_congr {f g o} h := by
    cases o with
    | none => rfl
    | some a => exact congrArg some (mapTexts_congr h)
  mapTexts_id o := by
    cases o with
    | none => rfl
    | some a => exact congrArg some (mapTexts_id a)

instance : Lawful Decl.Attributes where
  texts_mapTexts f l := by
    show (l.map fun p ↦ (p.1, f p.2)).map (·.2) = (l.map (·.2)).map f
    rw [List.map_map, List.map_map]
    rfl
  mapTexts_congr {f g l} h := by
    refine List.map_congr_left fun p hp ↦ ?_
    exact congrArg (Prod.mk p.1) (h p.2 (List.mem_map_of_mem hp))
  mapTexts_id l := by
    show l.map (fun p ↦ (p.1, id p.2)) = l
    simp

/-! ### Declarations

What is scanned and rewritten, part by part, and then the laws from those of the parts. -/

theorem texts_clock (c : Decl.Clock) :
    texts c = texts c.name ++ texts c.instanceName ++ texts c.templateName :=
  rfl

theorem mapTexts_clock (f : String → String) (c : Decl.Clock) :
    mapTexts f c = { c with
      name := mapTexts f c.name
      instanceName := mapTexts f c.instanceName
      templateName := mapTexts f c.templateName } :=
  rfl

instance : Lawful Decl.Clock where
  texts_mapTexts f c := by
    simp only [texts_clock, mapTexts_clock, texts_mapTexts, List.map_append]
  mapTexts_congr {f g c} h := by
    simp only [texts_clock, List.forall_mem_append] at h
    obtain ⟨⟨hname, hinstance⟩, htemplate⟩ := h
    simp only [mapTexts_clock, mapTexts_congr hname, mapTexts_congr hinstance,
      mapTexts_congr htemplate]
  mapTexts_id c := by
    simp only [mapTexts_clock, mapTexts_id]

theorem texts_source (s : Decl.Source) :
    texts s = texts s.name ++ texts s.instanceName ++ texts s.templateName ++ texts s.clock :=
  rfl

theorem mapTexts_source (f : String → String) (s : Decl.Source) :
    mapTexts f s = { s with
      name := mapTexts f s.name
      instanceName := mapTexts f s.instanceName
      templateName := mapTexts f s.templateName
      clock := mapTexts f s.clock } :=
  rfl

instance : Lawful Decl.Source where
  texts_mapTexts f s := by
    simp only [texts_source, mapTexts_source, texts_mapTexts, List.map_append]
  mapTexts_congr {f g s} h := by
    simp only [texts_source, List.forall_mem_append] at h
    obtain ⟨⟨⟨hname, hinstance⟩, htemplate⟩, hclock⟩ := h
    simp only [mapTexts_source, mapTexts_congr hname, mapTexts_congr hinstance,
      mapTexts_congr htemplate, mapTexts_congr hclock]
  mapTexts_id s := by
    simp only [mapTexts_source, mapTexts_id]

theorem texts_value (v : Decl.Value) :
    texts v =
      texts v.name ++ texts v.instanceName ++ texts v.templateName ++ texts v.source ++
        texts v.clock :=
  rfl

theorem mapTexts_value (f : String → String) (v : Decl.Value) :
    mapTexts f v = { v with
      name := mapTexts f v.name
      instanceName := mapTexts f v.instanceName
      templateName := mapTexts f v.templateName
      source := mapTexts f v.source
      clock := mapTexts f v.clock } :=
  rfl

instance : Lawful Decl.Value where
  texts_mapTexts f v := by
    simp only [texts_value, mapTexts_value, texts_mapTexts, List.map_append]
  mapTexts_congr {f g v} h := by
    simp only [texts_value, List.forall_mem_append] at h
    obtain ⟨⟨⟨⟨hname, hinstance⟩, htemplate⟩, hsource⟩, hclock⟩ := h
    simp only [mapTexts_value, mapTexts_congr hname, mapTexts_congr hinstance,
      mapTexts_congr htemplate, mapTexts_congr hsource, mapTexts_congr hclock]
  mapTexts_id v := by
    simp only [mapTexts_value, mapTexts_id]

instance : Lawful Decl.MetricName where
  texts_mapTexts f n := by
    cases n with
    | same name => rfl
    | forms p o =>
      show texts (mapTexts f p) ++ texts (mapTexts f o) = (texts p ++ texts o).map f
      simp only [texts_mapTexts, List.map_append]
  mapTexts_congr {f g n} h := by
    cases n with
    | same name => exact congrArg Decl.MetricName.same (h name (List.mem_singleton.mpr rfl))
    | forms p o =>
      obtain ⟨hprometheus, hotel⟩ := List.forall_mem_append.mp h
      show Decl.MetricName.forms (mapTexts f p) (mapTexts f o) =
        .forms (mapTexts g p) (mapTexts g o)
      rw [mapTexts_congr hprometheus, mapTexts_congr hotel]
  mapTexts_id n := by
    cases n with
    | same name => rfl
    | forms p o =>
      show Decl.MetricName.forms (mapTexts id p) (mapTexts id o) = .forms p o
      simp only [mapTexts_id]

theorem texts_metric (m : Decl.Metric) :
    texts m =
      texts m.name ++ texts m.templateName ++ texts m.description ++ texts m.attributes ++
        texts m.value :=
  rfl

theorem mapTexts_metric (f : String → String) (m : Decl.Metric) :
    mapTexts f m = { m with
      name := mapTexts f m.name
      templateName := mapTexts f m.templateName
      description := mapTexts f m.description
      attributes := mapTexts f m.attributes
      value := mapTexts f m.value } :=
  rfl

instance : Lawful Decl.Metric where
  texts_mapTexts f m := by
    simp only [texts_metric, mapTexts_metric, texts_mapTexts, List.map_append]
  mapTexts_congr {f g m} h := by
    simp only [texts_metric, List.forall_mem_append] at h
    obtain ⟨⟨⟨⟨hname, htemplate⟩, hdescription⟩, hattributes⟩, hvalue⟩ := h
    simp only [mapTexts_metric, mapTexts_congr hname, mapTexts_congr htemplate,
      mapTexts_congr hdescription, mapTexts_congr hattributes, mapTexts_congr hvalue]
  mapTexts_id m := by
    simp only [mapTexts_metric, mapTexts_id]

theorem texts_metricTemplate (m : Decl.MetricTemplate) :
    texts m =
      texts m.name ++ texts m.templateName ++ texts m.description ++ texts m.attributes ++
        texts m.value :=
  rfl

theorem mapTexts_metricTemplate (f : String → String) (m : Decl.MetricTemplate) :
    mapTexts f m = { m with
      name := mapTexts f m.name
      templateName := mapTexts f m.templateName
      description := mapTexts f m.description
      attributes := mapTexts f m.attributes
      value := mapTexts f m.value } :=
  rfl

instance : Lawful Decl.MetricTemplate where
  texts_mapTexts f m := by
    simp only [texts_metricTemplate, mapTexts_metricTemplate, texts_mapTexts, List.map_append]
  mapTexts_congr {f g m} h := by
    simp only [texts_metricTemplate, List.forall_mem_append] at h
    obtain ⟨⟨⟨⟨hname, htemplate⟩, hdescription⟩, hattributes⟩, hvalue⟩ := h
    simp only [mapTexts_metricTemplate, mapTexts_congr hname, mapTexts_congr htemplate,
      mapTexts_congr hdescription, mapTexts_congr hattributes, mapTexts_congr hvalue]
  mapTexts_id m := by
    simp only [mapTexts_metricTemplate, mapTexts_id]

end TelemetrySim.Scanned
