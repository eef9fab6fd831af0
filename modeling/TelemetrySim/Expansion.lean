import TelemetrySim.Iterator.Registry
import TelemetrySim.Placeholder

/-!
Expansion of a document. A declaration whose texts hold placeholders is replaced, in its place, by
one copy for each combination of their values; the placeholder that appears first is the slowest. A
declaration says which of its texts are scanned by two functions: `texts` lists them in the order of
scanning, and `mapTexts` changes exactly those.
-/

set_option autoImplicit false
set_option relaxedAutoImplicit false

namespace TelemetrySim

class Scanned (α : Type) where
  texts : α → List String
  mapTexts : (String → String) → α → α

namespace Scanned

instance : Scanned String where
  texts s := [s]
  mapTexts f s := f s

instance {α : Type} [Scanned α] : Scanned (Option α) where
  texts
    | none => []
    | some a => texts a
  mapTexts f a := a.map (mapTexts f)

/-- The values of attributes are scanned, their keys are not. -/
instance : Scanned Decl.Attributes where
  texts attributes := attributes.map (·.2)
  mapTexts f attributes := attributes.map fun (k, v) ↦ (k, f v)

instance : Scanned Decl.Clock where
  texts c := texts c.name ++ texts c.instanceName ++ texts c.templateName
  mapTexts f c := { c with
    name := mapTexts f c.name
    instanceName := mapTexts f c.instanceName
    templateName := mapTexts f c.templateName }

instance : Scanned Decl.Source where
  texts s := texts s.name ++ texts s.instanceName ++ texts s.templateName ++ texts s.clock
  mapTexts f s := { s with
    name := mapTexts f s.name
    instanceName := mapTexts f s.instanceName
    templateName := mapTexts f s.templateName
    clock := mapTexts f s.clock }

instance : Scanned Decl.Value where
  texts v :=
    texts v.name ++ texts v.instanceName ++ texts v.templateName ++ texts v.source ++ texts v.clock
  mapTexts f v := { v with
    name := mapTexts f v.name
    instanceName := mapTexts f v.instanceName
    templateName := mapTexts f v.templateName
    source := mapTexts f v.source
    clock := mapTexts f v.clock }

instance : Scanned Decl.MetricName where
  texts
    | .same name => [name]
    | .forms p o => texts p ++ texts o
  mapTexts f
    | .same name => .same (f name)
    | .forms p o => .forms (mapTexts f p) (mapTexts f o)

instance : Scanned Decl.Metric where
  texts m :=
    texts m.name ++ texts m.templateName ++ texts m.description ++ texts m.attributes ++
      texts m.value
  mapTexts f m := { m with
    name := mapTexts f m.name
    templateName := mapTexts f m.templateName
    description := mapTexts f m.description
    attributes := mapTexts f m.attributes
    value := mapTexts f m.value }

instance : Scanned Decl.MetricTemplate where
  texts m :=
    texts m.name ++ texts m.templateName ++ texts m.description ++ texts m.attributes ++
      texts m.value
  mapTexts f m := { m with
    name := mapTexts f m.name
    templateName := mapTexts f m.templateName
    description := mapTexts f m.description
    attributes := mapTexts f m.attributes
    value := mapTexts f m.value }

/-- The names of the placeholders, in the order in which they first appear. -/
def placeholders {α : Type} [Scanned α] (a : α) : List String :=
  ((texts a).flatMap Placeholder.names).eraseDups

end Scanned

namespace Expansion

variable {α : Type} [Scanned α]

/-- The copies of one declaration. -/
def expandEntry (r : Registry) (a : α) : Except ExpansionFailure (List α) :=
  let names := Scanned.placeholders a
  if names.isEmpty then .ok [a]
  else do
    let c ← (r.combinations names).mapError .refused
    let n ← c.total.mapError .panicked
    if n = 0 then .error (.refused .noCombinations)
    else do
      let assignments ← c.all.mapError .panicked
      pure (assignments.map fun x ↦ Scanned.mapTexts (Placeholder.substitute x) a)

/-- The copies of declarations that start at an index of their section. -/
def expandFrom (r : Registry) (s : Decl.Section) : Nat → List α → Except ExpansionFailure (List α)
  | _, [] => .ok []
  | i, a :: rest => do
    let copies ← (expandEntry r a).mapError (.inEntry s i)
    let others ← expandFrom r s (i + 1) rest
    pure (copies ++ others)

def expandEntries (r : Registry) (s : Decl.Section) (entries : List α) :
    Except ExpansionFailure (List α) :=
  expandFrom r s 0 entries

end Expansion

open Expansion in
/-- Expands every declaration and every metric. The iterators stay as they are. -/
def Decl.Document.expand (d : Decl.Document) : Except ExpansionFailure Decl.Document := do
  let r ← Registry.ofDomains d.iterators
  let templateClocks ← expandEntries r .templateClocks d.templates.clocks
  let templateSources ← expandEntries r .templateSources d.templates.sources
  let templateValues ← expandEntries r .templateValues d.templates.values
  let templateMetrics ← expandEntries r .templateMetrics d.templates.metrics
  let instanceClocks ← expandEntries r .instanceClocks d.instances.clocks
  let instanceSources ← expandEntries r .instanceSources d.instances.sources
  let instanceValues ← expandEntries r .instanceValues d.instances.values
  let metrics ← expandEntries r .metrics d.metrics
  pure { d with
    templates := ⟨templateClocks, templateSources, templateValues, templateMetrics⟩
    instances := ⟨instanceClocks, instanceSources, instanceValues⟩
    metrics := metrics }

end TelemetrySim
