/-!
Generators of random numbers. Sources rely on nothing else about them: a seed starts a stream of
numbers, and a number that is drawn from a range lies in it.
-/

set_option autoImplicit false
set_option relaxedAutoImplicit false

namespace TelemetrySim.Random

class Rng (ρ : Type) where
  ofSeed : UInt64 → ρ
  /-- Draws a number from `min` to `max`. -/
  between (min max : Int64) (s : ρ) : Int64 × ρ
  between_mem {min max : Int64} (h : min ≤ max) (s : ρ) :
    min ≤ (between min max s).1 ∧ (between min max s).1 ≤ max

end TelemetrySim.Random
