import TelemetrySim.Proofs.Resolution.Document

/-!
Markers are sound. A marker says that the part beside it is a copy of a shared entity; it is carried
through templates, overrides and instances together with that part, so in a compiled configuration
the entry of the shared entity is always the part itself.
-/

set_option autoImplicit false
set_option relaxedAutoImplicit false

namespace TelemetrySim

open Resolution Outcome

namespace Config

/-- The marker of the clock of a source names a shared clock, which is the clock of the source. -/
def Source.Marked (clocks : SharedClocks) (s : Source) : Prop :=
  ∀ name, s.clockRef = some name → ∃ clock, clocks.lookup name = some clock ∧ s.clock = some clock

/-- Every marker of a value names a shared entity, which is the part that it stands beside. -/
structure Value.Marked (clocks : SharedClocks) (sources : SharedSources) (v : Value) : Prop where
  source : ∀ name, v.sourceRef = some name → sources.lookup name = some v.source
  clock : ∀ name, v.clockRef = some name →
    ∃ clock, clocks.lookup name = some clock ∧ v.clock = some clock
  sourceClock : v.source.Marked clocks

theorem Source.marked_default (clocks : SharedClocks) : Source.Marked clocks {} := by
  intro name hname
  simp at hname

theorem Value.marked_default (clocks : SharedClocks) (sources : SharedSources) :
    Value.Marked clocks sources {} where
  source := by simp
  clock := by simp
  sourceClock := Source.marked_default clocks

/-- The clock that drives a value comes with a marker that names it, whichever clock it is. -/
theorem Value.Marked.effectiveClock {clocks : SharedClocks} {sources : SharedSources} {v : Value}
    (hv : v.Marked clocks sources) {c : Clock} {marker : Option String}
    (h : v.effectiveClock = some (c, marker)) :
    ∀ name, marker = some name → clocks.lookup name = some c := by
  intro name hname
  rcases effectiveClock_eq_some_iff.mp h with ⟨hown, rfl⟩ | ⟨-, hsource, rfl⟩
  · obtain ⟨k, hk, hsame⟩ := hv.clock name hname
    rw [hk, ← hsame, hown]
  · obtain ⟨k, hk, hsame⟩ := hv.sourceClock name hname
    rw [hk, ← hsame, hsource]

end Config

namespace Scope

variable {s : Scope} {trail : Trail} {marker : Option String}

/-- A clock reference keeps marker and clock together, if those that it inherits belong together. -/
theorem clockOr_marked {c : Option Decl.Clock} {inherited : Option Config.Clock × Option String}
    {clock : Option Config.Clock} (h : s.clockOr c inherited trail = .ok (clock, marker))
    (hinherited : ∀ name, inherited.2 = some name →
      ∃ k, s.clocks.shared.lookup name = some k ∧ inherited.1 = some k) :
    ∀ name, marker = some name →
      ∃ k, s.clocks.shared.lookup name = some k ∧ clock = some k := by
  rcases clockOr_cases h with ⟨-, rfl⟩ | ⟨d, k, -, rfl, hclock⟩
  · exact hinherited
  · intro name hname
    exact ⟨k, (resolveClock_eq_ok_iff.mp hclock).lookup_eq_some hname, rfl⟩

theorem keeps_sourceMarked (s : Scope) :
    Keeps s.buildSource (Config.Source.Marked s.clocks.shared) := by
  intro d base trail source hbase h
  obtain ⟨hclock, -⟩ := buildSource_eq_ok_iff.mp h
  have hinherited : (base.getD {}).Marked s.clocks.shared := by
    cases base with
    | none => exact Config.Source.marked_default _
    | some b => exact hbase b rfl
  exact clockOr_marked hclock hinherited

theorem keeps_valueMarked (s : Scope)
    (hsources : s.sources.All (Config.Source.Marked s.clocks.shared)) :
    Keeps s.buildValue (Config.Value.Marked s.clocks.shared s.sources.shared) := by
  intro d base trail value hbase h
  obtain ⟨hsource, hclock, -⟩ := buildValue_eq_ok_iff.mp h
  have hinherited : (base.getD {}).Marked s.clocks.shared s.sources.shared := by
    cases base with
    | none => exact Config.Value.marked_default _ _
    | some b => exact hbase b rfl
  have hmarked : ∀ name, value.clockRef = some name →
      ∃ k, s.clocks.shared.lookup name = some k ∧ value.clock = some k :=
    clockOr_marked hclock hinherited.clock
  rcases sourceOr_cases hsource with ⟨-, hpair⟩ | ⟨d', -, hresolved⟩
  · obtain ⟨hsame, href⟩ := Prod.mk.inj hpair
    exact {
      source := by rw [← hsame, ← href]; exact hinherited.source
      clock := hmarked
      sourceClock := by rw [← hsame]; exact hinherited.sourceClock }
  · have hyields := resolveSource_eq_ok_iff.mp hresolved
    exact {
      source := fun name hname ↦ hyields.lookup_eq_some hname
      clock := hmarked
      sourceClock := hyields.all (keeps_sourceMarked s) hsources }

end Scope

namespace Resolution

/-- Markers are sound. -/
def marked : Invariant where
  clock _ := True
  source := Config.Source.Marked
  value := Config.Value.Marked
  keeps_clock := fun _ _ _ _ _ _ ↦ trivial
  keeps_source s _ := s.keeps_sourceMarked
  keeps_value s _ hsources := s.keeps_valueMarked hsources

end Resolution

/-- Wherever a compiled configuration has a marker, the entry of the shared entity that it names is
the part beside it. -/
theorem Config.markers_sound {d : Decl.Document} {config : Config} (h : d.compile = .ok config) :
    (∀ m ∈ config.metrics,
        m.value.Marked config.instances.clocks config.instances.sources) ∧
      (∀ p ∈ config.instances.values,
        p.2.Marked config.instances.clocks config.instances.sources) ∧
      ∀ p ∈ config.instances.sources, p.2.Marked config.instances.clocks := by
  have hmarked := marked.of_compile h
  exact ⟨hmarked.metrics, hmarked.values, hmarked.sources⟩

/-! ### A demonstration

A document whose metrics reach the shared source `dice` on all ways there are: through a shared value
that is based on a template, directly, and with a clock of the value's own. The shared source `coin`
has a clock that is not shared. -/

namespace Demo

def document : Decl.Document where
  templates := {
    clocks := [{ name := some "second", kind := some "periodic", interval := some (.ofSeconds 1) }]
    values := [{
      name := some "total"
      source := some { instanceName := some "dice" }
      transforms := some [⟨"accumulate"⟩]
      reset := some { kind := "on_read" } }] }
  instances := {
    clocks := [{ name := some "beat", templateName := some "second" }]
    sources := [
      { name := some "dice", kind := some "random_int", min := some 1, max := some 6
        clock := some { instanceName := some "beat" } },
      { name := some "coin", kind := some "random_int", max := some 1
        clock := some { templateName := some "second" } }]
    values := [{ name := some "sum", templateName := some "total" }] }
  metrics := [
    { name := .same "a", kind := some "counter", description := some "A"
      value := some { instanceName := some "sum" } },
    { name := .same "b", kind := some "gauge", description := some "B"
      value := some { source := some { instanceName := some "dice" } } },
    { name := .same "c", kind := some "gauge", description := some "C"
      value := some { source := some { instanceName := some "coin" } } },
    { name := .same "d", kind := some "gauge", description := some "D"
      value := some {
        source := some { instanceName := some "dice" }
        clock := some { instanceName := some "beat" } } }]

def beat : Config.Clock := ⟨"periodic", .ofSeconds 1⟩

def dice : Config.Source where
  kind := "random_int"
  clock := some beat
  clockRef := some "beat"
  min := 1
  max := 6

def coin : Config.Source where
  kind := "random_int"
  clock := some beat
  max := 1

def sum : Config.Value where
  source := dice
  sourceRef := some "dice"
  transforms := [⟨"accumulate"⟩]
  reset := some ⟨"on_read", 0⟩

def config : Config where
  instances := ⟨[("beat", beat)], [("dice", dice), ("coin", coin)], [("sum", sum)]⟩
  metrics := [
    ⟨⟨"a", "a"⟩, .counter, "A", sum, []⟩,
    ⟨⟨"b", "b"⟩, .gauge, "B", { source := dice, sourceRef := some "dice" }, []⟩,
    ⟨⟨"c", "c"⟩, .gauge, "C", { source := coin, sourceRef := some "coin" }, []⟩,
    ⟨⟨"d", "d"⟩, .gauge, "D",
      { source := dice, sourceRef := some "dice", clock := some beat, clockRef := some "beat" }, []⟩]
  exporter := .pull {}
  settings := { seed := none, internalMetrics := ⟨false, .prometheus⟩ }

theorem compile_document : document.compile = .ok config := by with_unfolding_all rfl

/-- The markers of the demonstration are sound. -/
theorem config_marked :
    document.compile = .ok config ∧
      (∀ m ∈ config.metrics,
          m.value.Marked config.instances.clocks config.instances.sources) ∧
        (∀ p ∈ config.instances.values,
          p.2.Marked config.instances.clocks config.instances.sources) ∧
        ∀ p ∈ config.instances.sources, p.2.Marked config.instances.clocks :=
  ⟨compile_document, Config.markers_sound compile_document⟩

end Demo

end TelemetrySim
