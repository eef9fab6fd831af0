import TelemetrySim.Proofs.Resolution.Blame
import TelemetrySim.Proofs.Resolution.Marker
import TelemetrySim.Proofs.Resolution.Phases

/-!
Phases depend on earlier kinds only. The phase that a run fails in is the one of the kind that its
error is about (`raised_iff`), and whether it gets there, what it knows by then and what it finds
wrong hang on the declarations of that kind and of earlier ones. So two documents that agree so far
fail with the same error or have resolved the same entities, whatever comes later.
-/

set_option autoImplicit false
set_option relaxedAutoImplicit false

namespace TelemetrySim

open Outcome

/-! ### Kinds in order -/

/-- The place of a kind among the phases. -/
def EntityKind.rank : EntityKind → Nat
  | clock => 0
  | source => 1
  | value => 2
  | metric => 3

/-- The documents have the same declarations of a kind, in the same order. -/
def Decl.Document.SameDeclarations (x x' : Decl.Document) : EntityKind → Prop
  | .clock => x'.templates.clocks = x.templates.clocks ∧ x'.instances.clocks = x.instances.clocks
  | .source => x'.templates.sources = x.templates.sources ∧
      x'.instances.sources = x.instances.sources
  | .value => x'.templates.values = x.templates.values ∧ x'.instances.values = x.instances.values
  | .metric => x'.templates.metrics = x.templates.metrics ∧ x'.metrics = x.metrics

/-- The documents have the same declarations of a kind and of all earlier ones. -/
def Decl.Document.SameUpTo (x x' : Decl.Document) (k : EntityKind) : Prop :=
  ∀ j : EntityKind, j.rank ≤ k.rank → x.SameDeclarations x' j

theorem Decl.Document.SameDeclarations.symm {x x' : Decl.Document} {k : EntityKind}
    (h : x.SameDeclarations x' k) : x'.SameDeclarations x k := by
  cases k with
  | clock => exact ⟨h.1.symm, h.2.symm⟩
  | source => exact ⟨h.1.symm, h.2.symm⟩
  | value => exact ⟨h.1.symm, h.2.symm⟩
  | metric => exact ⟨h.1.symm, h.2.symm⟩

theorem Decl.Document.SameUpTo.symm {x x' : Decl.Document} {k : EntityKind}
    (h : x.SameUpTo x' k) : x'.SameUpTo x k :=
  fun j hj ↦ (h j hj).symm

theorem Decl.Document.SameUpTo.earlier {x x' : Decl.Document} {j k : EntityKind}
    (h : x.SameUpTo x' k) (hj : j.rank ≤ k.rank) : x.SameUpTo x' j :=
  fun i hi ↦ h i (hi.trans hj)

/-- The configurations have the same entities of a kind, in the same order. -/
def Config.SameEntities (c c' : Config) : EntityKind → Prop
  | .clock => c'.instances.clocks = c.instances.clocks
  | .source => c'.instances.sources = c.instances.sources
  | .value => c'.instances.values = c.instances.values
  | .metric => c'.metrics = c.metrics

namespace Resolution

variable {x x' : Decl.Document} {config config' : Config} {j k : EntityKind} {e : Failure}

/-! ### Errors by phase -/

/-- The phase of a kind ends with an error, after the earlier ones have succeeded. -/
inductive Raised (x : Decl.Document) : EntityKind → Failure → Prop
  | clock {e : Failure}
      (h : clockPhase x.templates.clocks x.instances.clocks {} = .error e) : Raised x .clock e
  | source {e : Failure} {s : Scope}
      (hclocks : clockPhase x.templates.clocks x.instances.clocks {} = .ok s)
      (h : sourcePhase x.templates.sources x.instances.sources s = .error e) : Raised x .source e
  | value {e : Failure} {s t : Scope}
      (hclocks : clockPhase x.templates.clocks x.instances.clocks {} = .ok s)
      (hsources : sourcePhase x.templates.sources x.instances.sources s = .ok t)
      (h : valuePhase x.templates.values x.instances.values t = .error e) : Raised x .value e
  | metric {e : Failure} {s t u : Scope}
      (hclocks : clockPhase x.templates.clocks x.instances.clocks {} = .ok s)
      (hsources : sourcePhase x.templates.sources x.instances.sources s = .ok t)
      (hvalues : valuePhase x.templates.values x.instances.values t = .ok u)
      (h : metricPhase x.templates.metrics x.metrics u = .error e) : Raised x .metric e

theorem Raised.about (h : Raised x k e) : e.About k := by
  cases h with
  | clock h => exact (clockPhase_fails (s := {}) List.nodup_nil e h).about
  | source hclocks h =>
    obtain ⟨hs, -⟩ := clockPhase_ok (s := {}) List.nodup_nil hclocks
    exact (sourcePhase_fails hs e h).about
  | value hclocks hsources h =>
    obtain ⟨hs, -⟩ := clockPhase_ok (s := {}) List.nodup_nil hclocks
    obtain ⟨ht, -⟩ := sourcePhase_ok hs hsources
    exact (valuePhase_fails ht e h).about
  | metric hclocks hsources hvalues h =>
    obtain ⟨hs, -⟩ := clockPhase_ok (s := {}) List.nodup_nil hclocks
    obtain ⟨ht, -⟩ := sourcePhase_ok hs hsources
    obtain ⟨hu, -⟩ := valuePhase_ok ht hvalues
    exact (metricPhase_fails hu e h).about

/-- The first phase that fails ends the run. -/
theorem Raised.resolve_eq (h : Raised x k e) : Config.resolve x = .error e := by
  cases h with
  | clock h => exact bind_eq_error_iff.mpr (.inl h)
  | source hclocks h =>
    exact bind_eq_error_iff.mpr (.inr ⟨_, hclocks, bind_eq_error_iff.mpr (.inl h)⟩)
  | value hclocks hsources h =>
    exact bind_eq_error_iff.mpr (.inr ⟨_, hclocks, bind_eq_error_iff.mpr (.inr ⟨_, hsources,
      bind_eq_error_iff.mpr (.inl h)⟩)⟩)
  | metric hclocks hsources hvalues h =>
    exact bind_eq_error_iff.mpr (.inr ⟨_, hclocks, bind_eq_error_iff.mpr (.inr ⟨_, hsources,
      bind_eq_error_iff.mpr (.inr ⟨_, hvalues, bind_eq_error_iff.mpr (.inl h)⟩)⟩)⟩)

/-- An error comes from one of the phases or is about no declaration. -/
theorem raised_or_outer (h : Config.resolve x = .error e) :
    (∃ k, Raised x k e) ∨ e.Outer := by
  rcases bind_eq_error_iff.mp h with h | ⟨s, hclocks, h⟩
  · exact .inl ⟨_, .clock h⟩
  rcases bind_eq_error_iff.mp h with h | ⟨t, hsources, h⟩
  · exact .inl ⟨_, .source hclocks h⟩
  rcases bind_eq_error_iff.mp h with h | ⟨u, hvalues, h⟩
  · exact .inl ⟨_, .value hclocks hsources h⟩
  rcases bind_eq_error_iff.mp h with h | ⟨metrics, -, h⟩
  · exact .inl ⟨_, .metric hclocks hsources hvalues h⟩
  rcases bind_eq_error_iff.mp h with h | ⟨exporter, -, h⟩
  · exact .inr (Config.Export.resolve_outer _ e h)
  rcases bind_eq_error_iff.mp h with h | ⟨settings, -, h⟩
  · exact .inr (Config.Settings.resolve_outer _ e h)
  · simp [pure, Except.pure] at h

/-- The phase that a run fails in can be read off its error. -/
theorem raised_iff : Raised x k e ↔ Config.resolve x = .error e ∧ e.About k := by
  constructor
  · intro h
    exact ⟨h.resolve_eq, h.about⟩
  · rintro ⟨h, habout⟩
    rcases raised_or_outer h with ⟨k', hraised⟩ | ⟨houter, -⟩
    · rw [habout.unique hraised.about]
      exact hraised
    · exact absurd habout (houter k)

/-! ### Two documents -/

section Same

variable (h : x.SameUpTo x' k)

include h

theorem clockPhase_same (hk : EntityKind.clock.rank ≤ k.rank) :
    clockPhase x'.templates.clocks x'.instances.clocks =
      clockPhase x.templates.clocks x.instances.clocks := by
  rw [(h .clock hk).1, (h .clock hk).2]

theorem sourcePhase_same (hk : EntityKind.source.rank ≤ k.rank) :
    sourcePhase x'.templates.sources x'.instances.sources =
      sourcePhase x.templates.sources x.instances.sources := by
  rw [(h .source hk).1, (h .source hk).2]

theorem valuePhase_same (hk : EntityKind.value.rank ≤ k.rank) :
    valuePhase x'.templates.values x'.instances.values =
      valuePhase x.templates.values x.instances.values := by
  rw [(h .value hk).1, (h .value hk).2]

theorem metricPhase_same (hk : EntityKind.metric.rank ≤ k.rank) :
    metricPhase x'.templates.metrics x'.metrics = metricPhase x.templates.metrics x.metrics := by
  rw [(h .metric hk).1, (h .metric hk).2]

end Same

theorem Raised.same (h : Raised x k e) (hsame : x.SameUpTo x' k) : Raised x' k e := by
  cases h with
  | clock h =>
    rw [← clockPhase_same hsame (by decide)] at h
    exact .clock h
  | source hclocks h =>
    rw [← clockPhase_same hsame (by decide)] at hclocks
    rw [← sourcePhase_same hsame (by decide)] at h
    exact .source hclocks h
  | value hclocks hsources h =>
    rw [← clockPhase_same hsame (by decide)] at hclocks
    rw [← sourcePhase_same hsame (by decide)] at hsources
    rw [← valuePhase_same hsame (by decide)] at h
    exact .value hclocks hsources h
  | metric hclocks hsources hvalues h =>
    rw [← clockPhase_same hsame (by decide)] at hclocks
    rw [← sourcePhase_same hsame (by decide)] at hsources
    rw [← valuePhase_same hsame (by decide)] at hvalues
    rw [← metricPhase_same hsame (by decide)] at h
    exact .metric hclocks hsources hvalues h

/-- The shared entities of a kind are those that its phase leaves behind. -/
theorem instances_of_resolve (h : Config.resolve x = .ok config) :
    ∃ s t u, clockPhase x.templates.clocks x.instances.clocks {} = .ok s ∧
      sourcePhase x.templates.sources x.instances.sources s = .ok t ∧
      valuePhase x.templates.values x.instances.values t = .ok u ∧
      metricPhase x.templates.metrics x.metrics u = .ok config.metrics ∧
      config.instances = ⟨s.clocks.shared, t.sources.shared, u.values.shared⟩ := by
  obtain ⟨s, t, u, hclocks, hsources, hvalues, hmetrics, -, -, hinstances⟩ := resolve_ok h
  obtain ⟨hs, -⟩ := clockPhase_ok (by simp [Namespace.claimed, Assoc.keys]) hclocks
  obtain ⟨ht, hclocksKept, -⟩ := sourcePhase_ok hs hsources
  obtain ⟨-, hclocksKept', hsourcesKept, -⟩ := valuePhase_ok ht hvalues
  rw [hsourcesKept, hclocksKept', hclocksKept] at hinstances
  exact ⟨s, t, u, hclocks, hsources, hvalues, hmetrics, hinstances⟩

theorem sameEntities_of_resolve (hsame : x.SameUpTo x' k) (h : Config.resolve x = .ok config)
    (h' : Config.resolve x' = .ok config') : config.SameEntities config' k := by
  obtain ⟨s, t, u, hs, ht, hu, hmetrics, hinstances⟩ := instances_of_resolve h
  obtain ⟨s', t', u', hs', ht', hu', hmetrics', hinstances'⟩ := instances_of_resolve h'
  -- The phases up to that of the kind are the same, so they leave the same behind one by one.
  rw [clockPhase_same hsame (by cases k <;> decide), hs] at hs'
  obtain rfl := Except.ok.inj hs'
  cases k with
  | clock => simp only [Config.SameEntities, hinstances, hinstances']
  | source =>
    rw [sourcePhase_same hsame (by decide), ht] at ht'
    obtain rfl := Except.ok.inj ht'
    simp only [Config.SameEntities, hinstances, hinstances']
  | value =>
    rw [sourcePhase_same hsame (by decide), ht] at ht'
    obtain rfl := Except.ok.inj ht'
    rw [valuePhase_same hsame (by decide), hu] at hu'
    obtain rfl := Except.ok.inj hu'
    simp only [Config.SameEntities, hinstances, hinstances']
  | metric =>
    rw [sourcePhase_same hsame (by decide), ht] at ht'
    obtain rfl := Except.ok.inj ht'
    rw [valuePhase_same hsame (by decide), hu] at hu'
    obtain rfl := Except.ok.inj hu'
    rw [metricPhase_same hsame (by decide), hmetrics] at hmetrics'
    exact (Except.ok.inj hmetrics').symm

end Resolution

open Resolution

/-- Two documents that have the same declarations of a kind and of all earlier ones raise the same
errors about them, problem and trail included, and where both resolve, they have resolved the same
entities of these kinds. Nothing that comes later is ever seen. -/
theorem Config.resolve_same {k : EntityKind} {x x' : Decl.Document} (hsame : x.SameUpTo x' k) :
    (∀ j e, j.rank ≤ k.rank → (Raised x j e ↔ Raised x' j e)) ∧
      (∀ j (e : Failure), j.rank ≤ k.rank → e.About j →
        (Config.resolve x = .error e ↔ Config.resolve x' = .error e)) ∧
      ∀ config config', Config.resolve x = .ok config → Config.resolve x' = .ok config' →
        ∀ j, j.rank ≤ k.rank → config.SameEntities config' j := by
  have hraised : ∀ j e, j.rank ≤ k.rank → (Raised x j e ↔ Raised x' j e) := by
    intro j e hj
    have hearlier : x.SameUpTo x' j := hsame.earlier hj
    exact ⟨fun h ↦ h.same hearlier, fun h ↦ h.same hearlier.symm⟩
  refine ⟨hraised, fun j e hj habout ↦ ?_, fun config config' h h' j hj ↦ ?_⟩
  · -- An error about the kind is one of its phase, in both documents.
    have hiff := hraised j e hj
    rw [raised_iff, raised_iff] at hiff
    simpa only [habout, and_true] using hiff
  · exact sameEntities_of_resolve (hsame.earlier hj) h h'

/-! ### A demonstration -/

namespace Demo

/-- The clocks and sources of the demonstration, with other values, metrics and settings. -/
def rewired : Decl.Document := { document with
  templates := { document.templates with values := [] }
  instances := { document.instances with
    values := [{ name := some "face", source := some { instanceName := some "coin" } }] }
  metrics := [{ name := .same "e", kind := some "gauge", description := some "E"
                value := some { instanceName := some "face" } }]
  settings := { seed := some 7 } }

/-- A document with one more source, on a clock that is not there. -/
def astray (d : Decl.Document) : Decl.Document := { d with
  instances := { d.instances with
    sources := d.instances.sources ++
      [{ name := some "stray", kind := some "random_int"
         clock := some { instanceName := some "second" } }] } }

def astrayFailure : Failure where
  problem := .notFound ⟨.clock, .shared⟩ "second" (some ⟨.clock, .template⟩)
  trail := [⟨"source instance", "stray"⟩]

theorem sameUpTo_rewired : document.SameUpTo rewired .source := by
  intro j hj
  cases j with
  | clock => exact ⟨rfl, rfl⟩
  | source => exact ⟨rfl, rfl⟩
  | value => exact absurd hj (by decide)
  | metric => exact absurd hj (by decide)

theorem sameUpTo_astray : (astray document).SameUpTo (astray rewired) .source := by
  intro j hj
  cases j with
  | clock => exact ⟨rfl, rfl⟩
  | source => exact ⟨rfl, rfl⟩
  | value => exact absurd hj (by decide)
  | metric => exact absurd hj (by decide)

def rewiredConfig : Config where
  instances := ⟨config.instances.clocks, config.instances.sources,
    [("face", { source := coin, sourceRef := some "coin" })]⟩
  metrics := [⟨⟨"e", "e"⟩, .gauge, "E", { source := coin, sourceRef := some "coin" }, []⟩]
  exporter := .pull {}
  settings := { seed := some 7, internalMetrics := ⟨false, .prometheus⟩ }

/-- Clocks and sources come out the same whatever is built on them, and so does what is wrong with
them. -/
theorem rewired_same :
    document.SameUpTo rewired .source ∧ Config.resolve document = .ok config ∧
      Config.resolve rewired = .ok rewiredConfig ∧
      (∀ j, j.rank ≤ EntityKind.source.rank → config.SameEntities rewiredConfig j) ∧
      (astray document).SameUpTo (astray rewired) .source ∧
      Config.resolve (astray document) = .error astrayFailure ∧
      Config.resolve (astray rewired) = .error astrayFailure := by
  have hresolves : Config.resolve document = .ok config := by with_unfolding_all rfl
  have hresolves' : Config.resolve rewired = .ok rewiredConfig := by with_unfolding_all rfl
  have hfails : Config.resolve (astray document) = .error astrayFailure := by
    with_unfolding_all rfl
  have habout : astrayFailure.About .source := .inr ⟨_, rfl, by decide⟩
  obtain ⟨-, -, hentities⟩ := Config.resolve_same sameUpTo_rewired
  obtain ⟨-, herrors, -⟩ := Config.resolve_same sameUpTo_astray
  exact ⟨sameUpTo_rewired, hresolves, hresolves', hentities _ _ hresolves hresolves',
    sameUpTo_astray, hfails, (herrors .source _ le_rfl habout).mp hfails⟩

end Demo

end TelemetrySim
