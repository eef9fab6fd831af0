import Mathlib.Logic.Function.Basic
import TelemetrySim.Random.Seed

/-!
Scattering loses nothing. A shifted exclusive or is undone by two more shifts if a third one leaves
nothing (`xorUnshift_xorShift`), and an odd factor by its inverse, so `gather` takes the steps of
`scatter` back. As an odd stride does not lose anything either, the stream of a master seed can be
read off its seed (`streamOf`), and so can the master seed of a stream (`masterOf`).
-/

set_option autoImplicit false
set_option relaxedAutoImplicit false

namespace TelemetrySim.Random

/-! ### Shifts -/

section Shifts

variable {k : UInt64}

def xorShift (k z : UInt64) : UInt64 := z ^^^ (z >>> k)

/-- Takes a shifted exclusive or back that shifts by a third of a word or more. -/
def xorUnshift (k z : UInt64) : UInt64 := z ^^^ (z >>> k) ^^^ (z >>> k >>> k)

theorem shiftRight_thrice (hk : k.toNat < 64) (hthird : 64 ≤ 3 * k.toNat) (z : UInt64) :
    z >>> k >>> k >>> k = 0 := by
  have hsum : k.toNat + k.toNat + k.toNat = 3 * k.toNat := by omega
  have hz : z.toNat < 2 ^ (3 * k.toNat) :=
    Nat.lt_of_lt_of_le z.toNat_lt (Nat.pow_le_pow_right (by decide) hthird)
  apply UInt64.toNat_inj.mp
  simp only [UInt64.toNat_shiftRight, Nat.mod_eq_of_lt hk, ← Nat.shiftRight_add]
  rw [hsum, Nat.shiftRight_eq_zero _ _ hz, UInt64.toNat_zero]

theorem xor_cancel (a b c : UInt64) : a ^^^ b ^^^ (b ^^^ c) = a ^^^ c := by
  rw [UInt64.xor_assoc, ← UInt64.xor_assoc b, UInt64.xor_self, UInt64.zero_xor]

theorem xorUnshift_xorShift (hk : k.toNat < 64) (hthird : 64 ≤ 3 * k.toNat) (z : UInt64) :
    xorUnshift k (xorShift k z) = z := by
  rw [xorUnshift, xorShift, UInt64.shiftRight_xor, UInt64.shiftRight_xor, xor_cancel, xor_cancel,
    shiftRight_thrice hk hthird, UInt64.xor_zero]

theorem xorShift_xorUnshift (hk : k.toNat < 64) (hthird : 64 ≤ 3 * k.toNat) (z : UInt64) :
    xorShift k (xorUnshift k z) = z := by
  rw [xorUnshift, xorShift, UInt64.shiftRight_xor, UInt64.shiftRight_xor,
    UInt64.xor_assoc (z >>> k), shiftRight_thrice hk hthird, UInt64.xor_zero]
  rw [UInt64.xor_assoc z, UInt64.xor_assoc, UInt64.xor_self, UInt64.xor_zero]

end Shifts

/-! ### Factors -/

theorem mul_cancel {a b : UInt64} (h : a * b = 1) (z : UInt64) : z * a * b = z := by
  rw [UInt64.mul_assoc, h, UInt64.mul_one]

/-! ### Scattering -/

theorem scatter_eq (z : UInt64) :
    scatter z =
      xorShift 31 (xorShift 27 (xorShift 30 z * 0xBF58476D1CE4E5B9) * 0x94D049BB133111EB) := rfl

/-- The word that was scattered. -/
def gather (z : UInt64) : UInt64 :=
  xorUnshift 30 (xorUnshift 27 (xorUnshift 31 z * 0x319642B2D24D8EC3) * 0x96DE1B173F119089)

theorem gather_scatter (z : UInt64) : gather (scatter z) = z := by
  rw [gather, scatter_eq, xorUnshift_xorShift (by decide) (by decide), mul_cancel (by decide),
    xorUnshift_xorShift (by decide) (by decide), mul_cancel (by decide),
    xorUnshift_xorShift (by decide) (by decide)]

theorem scatter_gather (z : UInt64) : scatter (gather z) = z := by
  rw [gather, scatter_eq, xorShift_xorUnshift (by decide) (by decide), mul_cancel (by decide),
    xorShift_xorUnshift (by decide) (by decide), mul_cancel (by decide),
    xorShift_xorUnshift (by decide) (by decide)]

/-! ### Seeds -/

/-- The inverse of the stride. -/
def unstride : UInt64 := 0xF1DE83E19937733D

theorem stride_mul_unstride : stride * unstride = 1 := by decide

/-- The stream of a master seed that has a seed. -/
def streamOf (master seed : UInt64) : UInt64 := (gather seed - master) * unstride - 1

/-- The master seed that gives a stream a seed. -/
def masterOf (stream seed : UInt64) : UInt64 := gather seed - (stream + 1) * stride

theorem streamOf_childSeed (master stream : UInt64) :
    streamOf master (childSeed master stream) = stream := by
  rw [streamOf, childSeed, gather_scatter, UInt64.add_comm master, UInt64.add_sub_cancel,
    mul_cancel stride_mul_unstride, UInt64.add_sub_cancel]

theorem childSeed_streamOf (master seed : UInt64) :
    childSeed master (streamOf master seed) = seed := by
  rw [childSeed, streamOf, UInt64.sub_add_cancel,
    mul_cancel ((UInt64.mul_comm _ _).trans stride_mul_unstride), UInt64.add_comm master,
    UInt64.sub_add_cancel, scatter_gather]

theorem masterOf_childSeed (stream master : UInt64) :
    masterOf stream (childSeed master stream) = master := by
  rw [masterOf, childSeed, gather_scatter, UInt64.add_sub_cancel]

theorem childSeed_masterOf (stream seed : UInt64) :
    childSeed (masterOf stream seed) stream = seed := by
  rw [childSeed, masterOf, UInt64.sub_add_cancel, scatter_gather]

/-- Every word is the seed of exactly one stream of a master seed. -/
theorem childSeed_bijective (master : UInt64) : Function.Bijective (childSeed master) :=
  Function.bijective_iff_has_inverse.mpr
    ⟨streamOf master, streamOf_childSeed master, childSeed_streamOf master⟩

/-- Every word is the seed of a stream for exactly one master seed. -/
theorem childSeed_bijective_master (stream : UInt64) :
    Function.Bijective fun master ↦ childSeed master stream :=
  Function.bijective_iff_has_inverse.mpr
    ⟨masterOf stream, masterOf_childSeed stream, childSeed_masterOf stream⟩

end TelemetrySim.Random
