import TelemetrySim.Assoc
import TelemetrySim.Panic

/-!
Combinations of iterator values. A combination takes one value from the domain of each iterator; in
their order the first iterator is the slowest and each domain keeps its own order. They are counted
by an odometer over the positions in the domains. `cells` is the same product by recursion on the
sizes. How many there are is computed first, with 64 bits, and the program panics if it cannot be.
-/

set_option autoImplicit false
set_option relaxedAutoImplicit false

namespace TelemetrySim

namespace Odometer

/-- All lists of positions within the sizes, the first position slowest. -/
def cells : List Nat → List (List Nat)
  | [] => [[]]
  | n :: sizes => (List.range n).flatMap fun i ↦ (cells sizes).map (i :: ·)

/-- The number of all lists of positions. -/
def volume : List Nat → Nat
  | [] => 1
  | n :: sizes => n * volume sizes

def origin (sizes : List Nat) : List Nat := sizes.map fun _ ↦ 0

/-- The next list of positions: the last position that can move does, and those behind it return to
zero. -/
def next? : List Nat → List Nat → Option (List Nat)
  | n :: sizes, i :: cursor =>
    match next? sizes cursor with
    | some cursor => some (i :: cursor)
    | none => if i + 1 < n then some ((i + 1) :: origin sizes) else none
  | _, _ => none

/-- At most `fuel` lists of positions from the cursor on. -/
def walk (sizes : List Nat) : Nat → List Nat → List (List Nat)
  | 0, _ => []
  | fuel + 1, cursor =>
    cursor :: match next? sizes cursor with
      | some cursor => walk sizes fuel cursor
      | none => []

/-- The first `limit` lists of positions, none if a size is zero. -/
def take (limit : Nat) (sizes : List Nat) : List (List Nat) :=
  if sizes.contains 0 then [] else walk sizes limit (origin sizes)

def all (sizes : List Nat) : List (List Nat) := take (volume sizes) sizes

variable {σ ε : Type}

/-- Visits at most `fuel` lists of positions from the cursor on, until a visit fails. -/
def visitFrom (sizes : List Nat) (f : σ → List Nat → Except ε σ) :
    Nat → List Nat → σ → Except ε σ
  | 0, _, s => .ok s
  | fuel + 1, cursor, s => do
    let s ← f s cursor
    match next? sizes cursor with
    | some cursor => visitFrom sizes f fuel cursor s
    | none => .ok s

/-- Visits all lists of positions in order, until a visit fails. -/
def visit (sizes : List Nat) (f : σ → List Nat → Except ε σ) (s : σ) : Except ε σ :=
  if sizes.contains 0 then .ok s else visitFrom sizes f (volume sizes) (origin sizes) s

end Odometer

/-- An assignment of values to iterators, each name once. -/
abbrev Assignment := List (String × String)

/-- Iterators with their domains, in the order in which they were asked for. -/
structure Combinations where
  iterators : List (String × List String)

namespace Combinations

def names (c : Combinations) : List String := c.iterators.map (·.1)

def sizes (c : Combinations) : List Nat := c.iterators.map (·.2.length)

/-- The product of a word and a size, which must fit in a word. -/
def times (product : UInt64) (n : Nat) : Except Panic UInt64 :=
  if product.toNat * n < UInt64.size then .ok (UInt64.ofNat (product.toNat * n))
  else .error .overflow

/-- The number of combinations: the sizes are multiplied from the first to the last. -/
def total (c : Combinations) : Except Panic UInt64 := c.sizes.foldlM times 1

/-- The values at the positions, in order. -/
def pick : List (String × List String) → List Nat → List (String × String)
  | (name, values) :: iterators, i :: cursor => (name, values[i]?.getD "") :: pick iterators cursor
  | _, _ => []

/-- The assignment at a list of positions. Where an iterator was asked for twice, the later value
takes the first place. -/
def assignment (c : Combinations) (cursor : List Nat) : Assignment :=
  (pick c.iterators cursor).foldl (fun a (n, v) ↦ Assoc.insert n v a) []

/-- The first `limit` combinations. They are counted before the first of them is shown. -/
def take (c : Combinations) (limit : Nat) : Except Panic (List Assignment) := do
  let n ← c.total
  pure (if n = 0 then [] else (Odometer.take limit c.sizes).map c.assignment)

def all (c : Combinations) : Except Panic (List Assignment) := c.take (Odometer.volume c.sizes)

/-- Visits the combinations in order, until a visit fails. They are counted before the first
visit. -/
def forEach {σ ε : Type} (c : Combinations) (f : σ → Assignment → Except ε σ) (s : σ) :
    Except Panic (Except ε σ) := do
  let n ← c.total
  pure (if n = 0 then .ok s
    else Odometer.visit c.sizes (fun s cursor ↦ f s (c.assignment cursor)) s)

end Combinations

end TelemetrySim
