import TelemetrySim.Proofs.Resolution.Kind
import TelemetrySim.Resolution.Metric

/-!
Resolving in a scope that knows more. What a reference or a declaration resolves to in one scope, it
resolves to in every scope whose tables hold the same entities and maybe others; trails and taken
names matter for errors only. So the entities that two documents share are the same in both, as long
as the second one resolves (`ResolvedKind.within`).
-/

set_option autoImplicit false
set_option relaxedAutoImplicit false

namespace TelemetrySim

open Outcome Resolution

/-- Every entry of the table is in the other, under its key. -/
def Assoc.Within {α : Type} (l l' : List (String × α)) : Prop :=
  ∀ n a, l.lookup n = some a → l'.lookup n = some a

theorem Assoc.Within.antisymm {α : Type} {l l' : List (String × α)} (h : Within l l')
    (h' : Within l' l) (n : String) : l'.lookup n = l.lookup n :=
  Option.ext fun a ↦ ⟨h' n a, h n a⟩

/-- Every entity of the tables is in the others, under its name. -/
structure Tables.Within {ρ : Type} (t t' : Tables ρ) : Prop where
  templates : Assoc.Within t.templates t'.templates
  shared : Assoc.Within t.shared t'.shared

theorem Tables.Within.refl {ρ : Type} (t : Tables ρ) : t.Within t :=
  ⟨fun _ _ h ↦ h, fun _ _ h ↦ h⟩

/-- Every clock, source and value of the scope is in the other. -/
structure Scope.Within (s s' : Scope) : Prop where
  clocks : s.clocks.Within s'.clocks
  sources : s.sources.Within s'.sources
  values : s.values.Within s'.values

theorem orFails_refines {α : Type} {trail trail' : Trail} {p p' : Problem} {x y : Option α}
    (h : ∀ a, x = some a → y = some a) : Refines (orFails trail p x) (orFails trail' p' y) := by
  intro a ha
  exact Scope.orFails_eq_ok_iff.mpr (h a (Scope.orFails_eq_ok_iff.mp ha))

theorem fails_refines {α : Type} {trail : Trail} {p : Problem} {y : Resolved α} :
    Refines (fails trail p) y :=
  .of_error

/-- A check refuses the same in both. -/
theorem unless_refines {α : Type} {c : Prop} [Decidable c] {trail trail' : Trail} {p : Problem}
    {x y : Resolved α} (h : Refines x y) :
    Refines (if c then fails trail p else x) (if c then fails trail' p else y) := by
  by_cases hc : c
  · rw [if_pos hc]
    exact fails_refines
  · rw [if_neg hc, if_neg hc]
    exact h

namespace Scope

variable {s s' : Scope} {trail trail' : Trail}

/-! ### References -/

theorem refer_refines {δ ρ : Type} {kind : EntityKind} {tables tables' : Tables ρ}
    {build build' : Build δ ρ} {d : δ} {reference : Decl.Reference} {overrides : Bool}
    (htables : tables.Within tables')
    (hbuild : ∀ b trail trail', Refines (build d b trail) (build' d b trail')) :
    Refines (s.refer kind tables build d reference overrides trail)
      (s'.refer kind tables' build' d reference overrides trail') := by
  cases reference with
  | shared name =>
    exact (unless_refines (orFails_refines (htables.shared name))).bind fun r ↦ .refl _
  | copied name =>
    exact (orFails_refines (htables.templates name)).bind fun b ↦
      (hbuild _ _ _).bind fun r ↦ .refl _
  | inPlace => exact (hbuild _ _ _).bind fun r ↦ .refl _

theorem buildClock_refines {c : Decl.Clock} {b : Option Config.Clock} :
    Refines (buildClock c b trail) (buildClock c b trail') := by
  refine (orFails_refines fun _ h ↦ h).bind fun kind ↦ ?_
  refine (orFails_refines fun _ h ↦ h).bind fun interval ↦ ?_
  exact unless_refines (.refl _)

theorem resolveClock_refines (hclocks : s.clocks.Within s'.clocks) {c : Decl.Clock} :
    Refines (s.resolveClock c trail) (s'.resolveClock c trail') :=
  refer_refines hclocks fun _ _ _ ↦ buildClock_refines

theorem clockOr_refines (hclocks : s.clocks.Within s'.clocks) {c : Option Decl.Clock}
    {inherited : Option Config.Clock × Option String} :
    Refines (s.clockOr c inherited trail) (s'.clockOr c inherited trail') := by
  cases c with
  | none => exact .refl _
  | some c => exact (resolveClock_refines hclocks).bind fun p ↦ .refl _

theorem buildSource_refines (hclocks : s.clocks.Within s'.clocks) {d : Decl.Source}
    {b : Option Config.Source} :
    Refines (s.buildSource d b trail) (s'.buildSource d b trail') := by
  refine (clockOr_refines hclocks).bind fun p ↦ ?_
  exact unless_refines (unless_refines (.refl _))

theorem resolveSource_refines (hclocks : s.clocks.Within s'.clocks)
    (hsources : s.sources.Within s'.sources) {d : Decl.Source} :
    Refines (s.resolveSource d trail) (s'.resolveSource d trail') :=
  refer_refines hsources fun _ _ _ ↦ buildSource_refines hclocks

theorem sourceOr_refines (hclocks : s.clocks.Within s'.clocks)
    (hsources : s.sources.Within s'.sources) {d : Option Decl.Source}
    {inherited : Config.Source × Option String} :
    Refines (s.sourceOr d inherited trail) (s'.sourceOr d inherited trail') := by
  cases d with
  | none => exact .refl _
  | some d => exact resolveSource_refines hclocks hsources

theorem buildValue_refines (hclocks : s.clocks.Within s'.clocks)
    (hsources : s.sources.Within s'.sources) {d : Decl.Value} {b : Option Config.Value} :
    Refines (s.buildValue d b trail) (s'.buildValue d b trail') := by
  refine (sourceOr_refines hclocks hsources).bind fun p ↦ ?_
  refine (clockOr_refines hclocks).bind fun q ↦ ?_
  exact unless_refines (unless_refines (.refl _))

theorem resolveValue_refines (h : s.Within s') {d : Decl.Value} :
    Refines (s.resolveValue d trail) (s'.resolveValue d trail') :=
  (refer_refines h.values fun _ _ _ ↦ buildValue_refines h.clocks h.sources).bind fun _ ↦ .refl _

/-! ### Metrics -/

theorem valueOr_refines (h : s.Within s') {d : Option Decl.Value}
    {inherited : Option Config.Value} :
    Refines (s.valueOr d inherited trail) (s'.valueOr d inherited trail') := by
  cases d with
  | none => exact .refl _
  | some d => exact (resolveValue_refines h).map

theorem buildMetricTemplate_refines (h : s.Within s') {m : Decl.MetricTemplate}
    {b : Option MetricBase} :
    Refines (s.buildMetricTemplate m b trail) (s'.buildMetricTemplate m b trail) := by
  refine Refines.bind (.refl _) fun kind ↦ ?_
  exact (valueOr_refines h).bind fun value ↦ .refl _

variable {templates templates' : List (String × MetricBase)}

theorem resolveMetric_refines (h : s.Within s') (htemplates : Assoc.Within templates templates')
    {m : Decl.Metric} :
    Refines (s.resolveMetric templates m) (s'.resolveMetric templates' m) := by
  have hbase : Refines (s.metricBase templates m.templateName (metricTrail m))
      (s'.metricBase templates' m.templateName (metricTrail m)) := by
    cases m.templateName with
    | none => exact .refl _
    | some n => exact (orFails_refines (htemplates n)).bind fun b ↦ .refl _
  refine hbase.bind fun p ↦ ?_
  refine Refines.bind (.refl _) fun kind ↦ ?_
  refine Refines.bind (.refl _) fun description ↦ ?_
  exact (valueOr_refines h).bind fun value ↦ .refl _

theorem resolveMetrics_refines (h : s.Within s') (htemplates : Assoc.Within templates templates')
    (ms : List Decl.Metric) :
    Refines (s.resolveMetrics templates ms) (s'.resolveMetrics templates' ms) :=
  Refines.foldlM (fun _ _ ↦ (resolveMetric_refines h htemplates).bind fun _ ↦ .refl _) ms []

end Scope

/-! ### Two documents -/

/-- What one kind resolves to stays when declarations are added and building succeeds more often. -/
theorem Resolution.ResolvedKind.within {δ ρ : Type} [Declared δ] {kind : EntityKind}
    {build build' : Build δ ρ} {templates templates' instances instances' : List δ}
    {t t' : Tables ρ} (h : ResolvedKind kind build templates instances t)
    (h' : ResolvedKind kind build' templates' instances' t') (htemplates : templates ⊆ templates')
    (hinstances : instances ⊆ instances')
    (hbuild : ∀ d b trail, Refines (build d b trail) (build' d b trail)) : t.Within t' where
  templates n r hlookup := by
    obtain ⟨d, hd, hname, hresolves⟩ := h.lookup_templates.mp hlookup
    exact h'.lookup_templates.mpr ⟨d, htemplates hd, hname, hresolves.mono htemplates hbuild⟩
  shared n r hlookup := by
    obtain ⟨d, hd, hname, hresolves⟩ := h.lookup_shared.mp hlookup
    exact h'.lookup_shared.mpr ⟨d, hinstances hd, hname, hresolves.mono htemplates hbuild⟩

end TelemetrySim
