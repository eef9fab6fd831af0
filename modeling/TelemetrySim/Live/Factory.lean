import TelemetrySim.Live.Circuit

/-!
Makers of running objects. A generator asks a maker for one object after the other and knows each
one by its number only. A circuit is a maker that wires its objects up itself.
-/

set_option autoImplicit false
set_option relaxedAutoImplicit false

namespace TelemetrySim.Live

/-- A clock that is to be made. -/
structure ClockSpec where
  kind : ClockKind
  interval : Duration
deriving DecidableEq

/-- A source that is to be made. -/
structure SourceSpec where
  kind : SourceKind
  min : Int64
  max : Int64
deriving DecidableEq

/-- A value that is to be made. -/
structure ValueSpec where
  transforms : List Transform
  reset : ResetPolicy
deriving DecidableEq

/-- A maker of objects. All that it goes by, besides what it is asked for, is its state. -/
structure Factory (σ : Type) where
  clock : ClockSpec → σ → Except Fault (ClockId × σ)
  source : SourceSpec → ClockId → σ → Except Fault (SourceId × σ)
  value : ValueSpec → SourceId → σ → Except Fault (ValueId × σ)

/-- The maker whose state is the circuit of what it has made. -/
def Circuit.factory {ρ : Type} [Random.Rng ρ] : Factory (Circuit ρ) where
  clock spec c :=
    match spec.kind with
    | .periodic => c.addClock spec.interval
  source spec clock c :=
    match spec.kind with
    | .randomInt => c.addSource spec.min spec.max clock
  value spec source c := .ok (c.addValue spec.transforms spec.reset source)

end TelemetrySim.Live
