import TelemetrySim.Proofs.Live.KnownKinds
import TelemetrySim.Proofs.Resolution.Insertion

/-!
Shared entities that no metric refers to are never built. Building looks a shared entity up only when
a metric needs it, so with further entries it asks its maker for the same objects in the same order
(`metrics_refines`). With what is known of the configurations, a document with further declarations
gives the generator of the other one.
-/

set_option autoImplicit false
set_option relaxedAutoImplicit false

namespace TelemetrySim

open Outcome

namespace Live

/-! ### Builders -/

namespace Builder

variable {σ : Type} {F : Factory σ} {instances instances' : Config.Instances} {b : Builder σ}

theorem clock_refines (hclocks : Assoc.Within instances.clocks instances'.clocks)
    {c : Config.Clock} {marker : Option String} :
    Refines (b.clock F instances c marker) (b.clock F instances' c marker) := by
  cases marker with
  | none => exact .refl _
  | some name =>
    cases hcached : b.clocks.lookup name with
    | some id =>
      simp only [clock, hcached]
      exact .refl _
    | none =>
      cases hentry : instances.clocks.lookup name with
      | none =>
        simp only [clock, hcached, hentry]
        exact .of_error
      | some entry =>
        simp only [clock, hcached, hentry, hclocks name entry hentry]
        exact .refl _

theorem newFeed_refines (hclocks : Assoc.Within instances.clocks instances'.clocks)
    {c : Config.Clock} {marker : Option String} {s : Config.Source} :
    Refines (b.newFeed F instances c marker s) (b.newFeed F instances' c marker s) :=
  (clock_refines hclocks).bind fun _ ↦ .refl _

theorem sharedFeed_refines (hclocks : Assoc.Within instances.clocks instances'.clocks)
    (hsources : Assoc.Within instances.sources instances'.sources) {name : String} :
    Refines (b.sharedFeed F instances name) (b.sharedFeed F instances' name) := by
  cases hcached : b.feeds.lookup name with
  | some feed =>
    simp only [sharedFeed, hcached]
    exact .refl _
  | none =>
    cases hentry : instances.sources.lookup name with
    | none =>
      simp only [sharedFeed, hcached, hentry]
      exact .of_error
    | some s =>
      simp only [sharedFeed, hcached, hentry, hsources name s hentry]
      cases s.clock with
      | none => exact .of_error
      | some c => exact (newFeed_refines hclocks).bind fun _ ↦ .refl _

theorem feed_refines (hclocks : Assoc.Within instances.clocks instances'.clocks)
    (hsources : Assoc.Within instances.sources instances'.sources) {v : Config.Value} :
    Refines (b.feed F instances v) (b.feed F instances' v) := by
  unfold feed
  split
  · exact sharedFeed_refines hclocks hsources
  · split
    · exact .of_error
    · exact newFeed_refines hclocks

theorem metric_refines (hclocks : Assoc.Within instances.clocks instances'.clocks)
    (hsources : Assoc.Within instances.sources instances'.sources) {v : Config.Value} :
    Refines (b.metric F instances v) (b.metric F instances' v) :=
  (feed_refines hclocks hsources).bind fun _ ↦ .refl _

theorem metrics_refines (hclocks : Assoc.Within instances.clocks instances'.clocks)
    (hsources : Assoc.Within instances.sources instances'.sources) {index : Nat}
    {ms : List Config.Metric} :
    Refines (b.metrics F instances index ms) (b.metrics F instances' index ms) := by
  induction ms generalizing index b with
  | nil => exact .refl _
  | cons m rest ih =>
    refine (metric_refines hclocks hsources).mapError.bind fun made ↦ ?_
    exact ih.bind fun _ ↦ .refl _

end Builder

/-- With further shared entities the same objects are made. -/
theorem Generator.build_refines {σ : Type} {F : Factory σ} {objects : σ} {c c' : Config}
    (h : c.Follows c') :
    Refines (Generator.build F objects c.instances c.metrics)
      (Generator.build F objects c'.instances c'.metrics) := by
  rw [h.metrics]
  exact (Builder.metrics_refines h.clocks h.sources).bind fun _ ↦ .refl _

end Live

open Live

/-- Adding declarations is conservative. Where both compile, the document with further declarations
has the same metrics, export and settings, and every shared entity of the other one. Where the other
one can be built it can be built too, with as many clocks and sources: whoever makes the objects is
asked for the same ones. -/
theorem Decl.Document.Extends.conservative {d d' : Decl.Document} (hd : d.Extends d')
    {config config' : Config} (h : d.compile = .ok config) (h' : d'.compile = .ok config') :
    config.Follows config' ∧
      (∀ (ρ : Type) [Random.Rng ρ] (seeds : Random.Seeds) (g : Generator (Circuit ρ)),
        Generator.ofConfig seeds config = .ok g →
          ∃ g' : Generator (Circuit ρ), Generator.ofConfig seeds config' = .ok g' ∧
            g'.clockCount = g.clockCount ∧ g'.sourceCount = g.sourceCount) ∧
      ∀ (σ : Type) (F : Factory σ) (objects : σ) (g : Generator σ),
        Generator.build F objects config.instances config.metrics = .ok g →
          Generator.build F objects config'.instances config'.metrics = .ok g := by
  have hfollows : config.Follows config' := hd.follows h h'
  refine ⟨hfollows, fun ρ _ seeds g hg ↦ ?_, fun σ F objects g hg ↦ ?_⟩
  · exact ⟨g, Generator.build_refines hfollows g hg, rfl, rfl⟩
  · exact Generator.build_refines hfollows g hg

/-! ### A demonstration -/

namespace Demo

/-- The demonstration with a further template and two further shared entities that no metric is
about. -/
def furnished : Decl.Document := { document with
  templates := { document.templates with
    clocks := { name := some "slow", kind := some "periodic", interval := some (.ofSeconds 60) } ::
      document.templates.clocks }
  instances := { document.instances with
    clocks := document.instances.clocks ++
      [{ name := some "minute", templateName := some "slow" }]
    sources := { name := some "idle", kind := some "random_int", max := some 9
                 clock := some { instanceName := some "minute" } } ::
      document.instances.sources } }

def minute : Config.Clock := ⟨"periodic", .ofSeconds 60⟩

def furnishedConfig : Config := { config with
  instances := { config.instances with
    clocks := config.instances.clocks ++ [("minute", minute)]
    sources := ("idle", ⟨"random_int", some minute, some "minute", 0, 9⟩) ::
      config.instances.sources } }

/-- What is added to the demonstration changes nothing that is there, and is not built. -/
theorem furnished_conservative :
    document.Extends furnished ∧ document.compile = .ok config ∧
      furnished.compile = .ok furnishedConfig ∧ config.Follows furnishedConfig ∧
      ∀ (seeds : Random.Seeds) (g : Generator), Generator.ofConfig seeds config = .ok g →
        ∃ g' : Generator, Generator.ofConfig seeds furnishedConfig = .ok g' ∧
          g'.clockCount = g.clockCount ∧ g'.sourceCount = g.sourceCount := by
  have hextends : document.Extends furnished := {
    iterators := rfl
    templateClocks := List.sublist_cons_self _ _
    templateSources := .refl _
    templateValues := .refl _
    templateMetrics := .refl _
    instanceClocks := List.sublist_append_left _ _
    instanceSources := List.sublist_cons_self _ _
    instanceValues := .refl _
    metrics := rfl
    exporter := rfl
    settings := rfl }
  have hcompiles : furnished.compile = .ok furnishedConfig := by with_unfolding_all rfl
  obtain ⟨hfollows, hbuilds, -⟩ := hextends.conservative compile_document hcompiles
  exact ⟨hextends, compile_document, hcompiles, hfollows, hbuilds Random.Stream⟩

end Demo

end TelemetrySim
