/-!
Seeds of random streams. One master seed gives a child seed to every stream, by its number.
-/

set_option autoImplicit false
set_option relaxedAutoImplicit false

namespace TelemetrySim.Random

/-- Scatters the bits of a word: two rounds of a shifted exclusive or and an odd factor, and a last
shifted exclusive or. -/
def scatter (z : UInt64) : UInt64 :=
  let z := (z ^^^ (z >>> 30)) * 0xBF58476D1CE4E5B9
  let z := (z ^^^ (z >>> 27)) * 0x94D049BB133111EB
  z ^^^ (z >>> 31)

/-- The distance of neighbouring streams before scattering. -/
def stride : UInt64 := 0x9E3779B97F4A7C15

/-- The seed of a stream. -/
def childSeed (master stream : UInt64) : UInt64 := scatter (master + (stream + 1) * stride)

/-- A master seed and how many streams have been handed out. -/
structure Seeds where
  master : UInt64
  /-- Whether the master seed was asked for. -/
  explicit : Bool
  streams : UInt64 := 0

namespace Seeds

/-- The seed that was asked for, or else another one. -/
def ofSetting (seed : Option UInt64) (fallback : UInt64) : Seeds where
  master := seed.getD fallback
  explicit := seed.isSome

/-- The seed of the next stream. -/
def child (s : Seeds) : UInt64 := childSeed s.master s.streams

/-- One more stream is handed out. -/
def advance (s : Seeds) : Seeds := { s with streams := s.streams + 1 }

/-- The seeds after `n` streams. -/
def advanceBy (n : Nat) (s : Seeds) : Seeds := n.repeat advance s

end Seeds

end TelemetrySim.Random
