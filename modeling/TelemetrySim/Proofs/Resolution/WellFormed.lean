import TelemetrySim.Proofs.Resolution.Document

/-!
Compiled configurations are well formed: every clock has a kind and an interval that is not zero,
every source has a kind and a range that is not empty, and every value has a clock to drive it.
-/

set_option autoImplicit false
set_option relaxedAutoImplicit false

namespace TelemetrySim

open Resolution Outcome

namespace Config

structure Clock.WellFormed (c : Clock) : Prop where
  kind_ne : c.kind ≠ ""
  interval_ne : c.interval.isZero = false

structure Source.WellFormed (s : Source) : Prop where
  kind_ne : s.kind ≠ ""
  min_le_max : s.min ≤ s.max
  clock : ∀ c, s.clock = some c → c.WellFormed

structure Value.WellFormed (v : Value) : Prop where
  source : v.source.WellFormed
  clock : ∀ c, v.clock = some c → c.WellFormed
  driven : v.effectiveClock.isSome

/-- The clock that drives a value is well formed, whichever one it is. -/
theorem Value.WellFormed.effectiveClock {v : Value} (hv : v.WellFormed) {c : Clock}
    {marker : Option String} (h : v.effectiveClock = some (c, marker)) : c.WellFormed := by
  rcases effectiveClock_eq_some_iff.mp h with ⟨hown, -⟩ | ⟨-, hsource, -⟩
  · exact hv.clock c hown
  · exact hv.source.clock c hsource

end Config

namespace Scope

variable {s : Scope} {trail : Trail} {marker : Option String}

theorem keeps_clockWellFormed : Keeps buildClock Config.Clock.WellFormed := by
  intro c base trail clock _ h
  obtain ⟨-, hkind, -, hinterval⟩ := buildClock_eq_ok_iff.mp h
  exact ⟨hkind, hinterval⟩

theorem clockOr_wellFormed (hs : s.clocks.All Config.Clock.WellFormed) {c : Option Decl.Clock}
    {inherited : Option Config.Clock × Option String} {clock : Option Config.Clock}
    (h : s.clockOr c inherited trail = .ok (clock, marker))
    (hinherited : ∀ k, inherited.1 = some k → k.WellFormed) :
    ∀ k, clock = some k → k.WellFormed := by
  rcases clockOr_cases h with ⟨-, rfl⟩ | ⟨d, k, -, rfl, hclock⟩
  · exact hinherited
  · intro k' hk'
    obtain rfl := Option.some_inj.mp hk'
    exact (resolveClock_eq_ok_iff.mp hclock).all keeps_clockWellFormed hs

theorem keeps_sourceWellFormed (hs : s.clocks.All Config.Clock.WellFormed) :
    Keeps s.buildSource Config.Source.WellFormed := by
  intro d base trail source hbase h
  obtain ⟨hclock, -, -, -, hkind, hbounds⟩ := buildSource_eq_ok_iff.mp h
  have hinherited : ∀ k, (base.getD {}).clock = some k → k.WellFormed := by
    cases base with
    | none => simp
    | some b => exact (hbase b rfl).clock
  exact ⟨hkind, hbounds, clockOr_wellFormed hs hclock hinherited⟩

theorem keeps_valueWellFormed (hclocks : s.clocks.All Config.Clock.WellFormed)
    (hsources : s.sources.All Config.Source.WellFormed) :
    Keeps s.buildValue Config.Value.WellFormed := by
  intro d base trail value hbase h
  obtain ⟨hsource, hclock, -, -, hkind, hdriven⟩ := buildValue_eq_ok_iff.mp h
  have hinherited : ∀ k, (base.getD {}).clock = some k → k.WellFormed := by
    cases base with
    | none => simp
    | some b => exact (hbase b rfl).clock
  have hsourced : value.source.WellFormed := by
    rcases sourceOr_cases hsource with ⟨-, hpair⟩ | ⟨d', -, hresolved⟩
    · obtain ⟨hsame, -⟩ := Prod.mk.inj hpair
      cases base with
      -- The source of no base at all has no kind, and the check of the value refuses it.
      | none => exact absurd (by rw [← hsame]; rfl) hkind
      | some b =>
        rw [← hsame]
        exact (hbase b rfl).source
    · exact (resolveSource_eq_ok_iff.mp hresolved).all (keeps_sourceWellFormed hclocks) hsources
  exact ⟨hsourced, clockOr_wellFormed hclocks hclock hinherited, hdriven⟩

end Scope

/-- All that is resolved is well formed. -/
def Resolution.wellFormed : Invariant where
  clock := Config.Clock.WellFormed
  source _ := Config.Source.WellFormed
  value _ _ := Config.Value.WellFormed
  keeps_clock := Scope.keeps_clockWellFormed
  keeps_source _ hclocks := Scope.keeps_sourceWellFormed hclocks
  keeps_value _ hclocks hsources := Scope.keeps_valueWellFormed hclocks hsources

end TelemetrySim
