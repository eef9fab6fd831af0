import TelemetrySim.Compile
import TelemetrySim.Proofs.Exposition.Registry

/-!
Types in the text. A sample stands below the type line of its family, and that line gives the type
of the first metric of the name (`Typed.header`). So the samples of a configuration all stand below
their own types exactly if metrics that share a name share their type (`typed_of_config`), which
nothing asks of a configuration (`Demo.mixed_misread`).
-/

set_option autoImplicit false
set_option relaxedAutoImplicit false

namespace TelemetrySim.Exposition

/-- Every sample stands below a type line with its own name and type. -/
def OwnKinds (samples : List Sample) : Prop :=
  ∀ p ∈ exposed none (lines samples), p.2 = some (p.1.name, p.1.kind)

/-- Metrics with the same name have the same type. -/
def SameKinds (metrics : List Config.Metric) : Prop :=
  ∀ m ∈ metrics, ∀ m' ∈ metrics, m.names.prometheus = m'.names.prometheus → m.kind = m'.kind

instance (samples : List Sample) : Decidable (OwnKinds samples) :=
  inferInstanceAs (Decidable (∀ p ∈ exposed none (lines samples), p.2 = some (p.1.name, p.1.kind)))

/-- What stands above the samples of metrics. -/
structure Typed (metrics : List Config.Metric) (samples : List Sample) : Prop where
  /-- Every sample is in the text once. -/
  perm : ((exposed none (lines samples)).map Prod.fst).Perm samples
  header : ∀ p ∈ exposed none (lines samples), ∃ m,
    metrics.find? (·.names.prometheus = p.1.name) = some m ∧ p.2 = some (p.1.name, m.kind)
  own_iff : OwnKinds samples ↔ SameKinds metrics

/-! ### Headings -/

def Sample.heading (s : Sample) : String × Config.MetricKind := (s.name, s.kind)

def heading (m : Config.Metric) : String × Config.MetricKind := (m.names.prometheus, m.kind)

theorem exists_mem_exposed {samples : List Sample} {s : Sample} (hs : s ∈ samples) :
    ∃ above, (s, above) ∈ exposed none (lines samples) := by
  obtain ⟨⟨_, above⟩, hp, rfl⟩ := List.mem_map.mp ((exposed_perm samples).mem_iff.mpr hs)
  exact ⟨above, hp⟩

theorem mem_of_mem_exposed {samples : List Sample}
    {p : Sample × Option (String × Config.MetricKind)} (hp : p ∈ exposed none (lines samples)) :
    p.1 ∈ samples :=
  (exposed_perm samples).mem_iff.mp (List.mem_map_of_mem hp)

/-- A sample stands below its own type if and only if the first sample of its name has this type. -/
theorem ownKinds_iff_first {samples : List Sample} :
    OwnKinds samples ↔
      ∀ s ∈ samples, (samples.find? (·.name = s.name)).map Sample.kind = some s.kind := by
  constructor
  · intro hown s hs
    obtain ⟨above, habove⟩ := exists_mem_exposed hs
    obtain ⟨first, hfirst, hheader⟩ := header_of_mem_exposed habove
    have hsame : some (s.name, first.kind) = some (s.name, s.kind) :=
      hheader.symm.trans (hown _ habove)
    rw [hfirst, Option.map_some]
    exact congrArg (Option.map Prod.snd) hsame
  · rintro hfirsts ⟨s, above⟩ hp
    obtain ⟨first, hfirst, rfl⟩ := header_of_mem_exposed hp
    have hkind := hfirsts s (mem_of_mem_exposed hp)
    rw [hfirst, Option.map_some, Option.some_inj] at hkind
    rw [hkind]

theorem ownKinds_iff {samples : List Sample} :
    OwnKinds samples ↔ ∀ s ∈ samples, ∀ s' ∈ samples, s.name = s'.name → s.kind = s'.kind := by
  rw [ownKinds_iff_first]
  constructor
  · intro hfirsts s hs s' hs' hname
    have hkind := hfirsts s hs
    rw [hname, hfirsts s' hs', Option.some_inj] at hkind
    exact hkind.symm
  · intro hsame s hs
    obtain ⟨above, habove⟩ := exists_mem_exposed hs
    obtain ⟨first, hfirst, -⟩ := header_of_mem_exposed habove
    have hname : first.name = s.name := of_decide_eq_true (List.find?_some hfirst :)
    rw [hfirst, Option.map_some, hsame first (List.mem_of_find?_eq_some hfirst) s hs hname]

section

variable {metrics : List Config.Metric} {samples : List Sample}

theorem headings_eq (h : List.Forall₂ Shows metrics samples) :
    samples.map Sample.heading = metrics.map heading :=
  map_eq_of_shows (fun _ _ hms ↦ Prod.ext hms.name hms.kind) h

theorem sameKinds_iff (h : List.Forall₂ Shows metrics samples) :
    (∀ s ∈ samples, ∀ s' ∈ samples, s.name = s'.name → s.kind = s'.kind) ↔ SameKinds metrics := by
  have hsamples : (∀ s ∈ samples, ∀ s' ∈ samples, s.name = s'.name → s.kind = s'.kind) ↔
      ∀ p ∈ samples.map Sample.heading, ∀ q ∈ samples.map Sample.heading,
        p.1 = q.1 → p.2 = q.2 := by
    simp only [List.forall_mem_map, Sample.heading]
  rw [hsamples, headings_eq h]
  simp only [List.forall_mem_map, heading, SameKinds]

theorem find?_of_shows (h : List.Forall₂ Shows metrics samples) {n : String} {first : Sample}
    (hfirst : samples.find? (·.name = n) = some first) :
    ∃ m, metrics.find? (·.names.prometheus = n) = some m ∧ m.kind = first.kind := by
  have hsamples : (samples.map Sample.heading).find? (·.1 = n) = some first.heading := by
    rw [List.find?_map]
    exact congrArg (Option.map Sample.heading) hfirst
  rw [headings_eq h, List.find?_map] at hsamples
  obtain ⟨m, hm, hheading⟩ := Option.map_eq_some_iff.mp hsamples
  exact ⟨m, hm, congrArg Prod.snd hheading⟩

theorem typed_of_shows (h : List.Forall₂ Shows metrics samples) : Typed metrics samples where
  perm := exposed_perm samples
  header := by
    rintro ⟨s, above⟩ hp
    obtain ⟨first, hfirst, rfl⟩ := header_of_mem_exposed hp
    obtain ⟨m, hm, hkind⟩ := find?_of_shows h hfirst
    exact ⟨m, hm, by rw [hkind]⟩
  own_iff := ownKinds_iff.trans (sameKinds_iff h)

end

/-- In every state of a generator, the text has the samples of all metrics, and they stand below
their own types exactly if metrics with the same name have the same type. -/
theorem typed_of_config {ρ : Type} [Random.Rng ρ] {seeds : Random.Seeds} {config : Config}
    {g : Live.Generator (Live.Circuit ρ)} (h : Live.Generator.ofConfig seeds config = .ok g) :
    ∃ r, Registry.ofMetrics config.metrics g = .ok r ∧ ∀ actions, ∃ samples,
      Exposes config.metrics samples (r.render (g.run actions)).1 ∧
        Typed config.metrics samples := by
  obtain ⟨r, hr, hexposes⟩ := render_exposes h
  refine ⟨r, hr, fun actions ↦ ?_⟩
  obtain ⟨samples, hsamples⟩ := hexposes actions
  exact ⟨samples, hsamples, typed_of_shows hsamples.shows⟩

end TelemetrySim.Exposition

/-! ### A demonstration

A counter and a gauge of the same name, with different attributes. -/

namespace TelemetrySim.Demo

open Exposition

def mixed : Decl.Document where
  metrics := [
    { name := .same "jobs", kind := some "counter", description := some "Jobs"
      value := some toss, attributes := some [("queue", "a")] },
    { name := .same "jobs", kind := some "gauge", description := some "Jobs"
      value := some toss, attributes := some [("queue", "b")] }]

def mixedConfig : Config where
  instances := ⟨[], [], []⟩
  metrics := [
    ⟨⟨"jobs", "jobs"⟩, .counter, "Jobs", tossed, [("queue", "a")]⟩,
    ⟨⟨"jobs", "jobs"⟩, .gauge, "Jobs", tossed, [("queue", "b")]⟩]
  exporter := .pull {}
  settings := { seed := none, internalMetrics := ⟨false, .prometheus⟩ }

def mixedSamples : List Sample := [
  ⟨"jobs", .counter, "Jobs", [("queue", "a")], 0⟩, ⟨"jobs", .gauge, "Jobs", [("queue", "b")], 0⟩]

/-- The text has the gauge below the type line of the counter. -/
theorem mixed_misread :
    mixed.check = .ok () ∧ mixed.compile = .ok mixedConfig ∧
      ∃ (g : Live.Generator) (r : Exposition.Registry),
        Live.Generator.ofConfig (.ofSetting none 0) mixedConfig = .ok g ∧
        Registry.ofMetrics mixedConfig.metrics g = .ok r ∧
          (r.render g).1 = "# HELP jobs Jobs\n# TYPE jobs counter\n" ++
            "jobs\x7bqueue=\"a\"\x7d 0\njobs\x7bqueue=\"b\"\x7d 0\n" ∧
          Exposes mixedConfig.metrics mixedSamples (r.render g).1 ∧ ¬ OwnKinds mixedSamples := by
  refine ⟨by with_unfolding_all rfl, by with_unfolding_all rfl, _, _, by with_unfolding_all rfl,
    by with_unfolding_all rfl, by with_unfolding_all rfl, ⟨?_, by with_unfolding_all rfl⟩,
    by decide⟩
  exact .cons ⟨rfl, rfl, rfl, rfl⟩ (.cons ⟨rfl, rfl, rfl, rfl⟩ .nil)

/-- What stands above the samples of the two metrics. -/
theorem mixed_typed :
    ∃ g : Live.Generator, Live.Generator.ofConfig (.ofSetting none 0) mixedConfig = .ok g ∧
      ∃ r, Registry.ofMetrics mixedConfig.metrics g = .ok r ∧ ∀ actions, ∃ samples,
        Exposes mixedConfig.metrics samples (r.render (g.run actions)).1 ∧
          Typed mixedConfig.metrics samples :=
  have hbuild : ∃ g : Live.Generator,
      Live.Generator.ofConfig (.ofSetting none 0) mixedConfig = .ok g :=
    ⟨_, by with_unfolding_all rfl⟩
  hbuild.imp fun _ hg ↦ ⟨hg, typed_of_config hg⟩

end TelemetrySim.Demo
