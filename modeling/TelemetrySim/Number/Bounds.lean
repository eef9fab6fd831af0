/-!
Whole numbers that fit in 64 bits, with or without a sign.
-/

set_option autoImplicit false
set_option relaxedAutoImplicit false

namespace TelemetrySim.Number

def fitsInt64 (i : Int) : Bool := Int64.minValue.toInt ≤ i && i ≤ Int64.maxValue.toInt

def fitsUInt64 (i : Int) : Bool := 0 ≤ i && i < UInt64.size

/-- The number with 64 bits and a sign, if there is one. -/
def int64? (i : Int) : Option Int64 := if fitsInt64 i then some (Int64.ofInt i) else none

/-- The number with 64 bits and no sign, if there is one. -/
def uint64? (n : Nat) : Option UInt64 := if n < UInt64.size then some (UInt64.ofNat n) else none

theorem int64?_toInt (x : Int64) : int64? x.toInt = some x := by
  have h : fitsInt64 x.toInt = true := by
    simp only [fitsInt64, Bool.and_eq_true, decide_eq_true_eq]
    exact ⟨x.minValue_le_toInt, x.toInt_le⟩
  rw [int64?, if_pos h, Int64.ofInt_toInt]

end TelemetrySim.Number
