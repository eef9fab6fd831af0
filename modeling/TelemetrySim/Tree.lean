import TelemetrySim.Number.Binary64

/-!
Document trees. Both notations for documents are read into this one shape before the declarations
are taken from it. A scalar keeps what it reads as for each type that its place may ask for, so the
notation's own rules on types end here.
-/

set_option autoImplicit false
set_option relaxedAutoImplicit false

namespace TelemetrySim

namespace Tree

/-- The value of a scalar in a place that does not say which type it wants. -/
inductive Atom where
  | null
  | bool (b : Bool)
  | int (i : Int)
  | float (x : Number.Binary64)
  | text (s : String)
deriving DecidableEq

/-- What a scalar reads as. -/
structure Leaf where
  /-- As a text. -/
  text : Option String
  /-- As a whole number that may be negative. -/
  int : Option Int
  /-- As a whole number without a minus sign. -/
  nat : Option Nat
  bool : Option Bool
  /-- Whether an optional place counts as left out; `none` if that cannot be said. -/
  absent : Option Bool
  /-- Nothing is written, which stands for an empty list or table. -/
  blank : Bool
  /-- Where the type is taken from the writing; `none` if it has one of its own. -/
  atom : Option Atom

namespace Leaf

def readText (l : Leaf) (strict : Bool) : Option String :=
  if strict then
    match l.atom with
    | some (.text s) => some s
    | _ => none
  else l.text

def readInt (l : Leaf) (strict : Bool) : Option Int :=
  if strict then
    match l.atom with
    | some (.int i) => some i
    | _ => none
  else l.int

def readNat (l : Leaf) (strict : Bool) : Option Nat :=
  if strict then
    match l.atom with
    | some (.int i) => if 0 ≤ i then some i.toNat else none
    | _ => none
  else l.nat

def readBool (l : Leaf) (strict : Bool) : Option Bool :=
  if strict then
    match l.atom with
    | some (.bool b) => some b
    | _ => none
  else l.bool

def readAbsent (l : Leaf) (strict : Bool) : Option Bool :=
  if strict then l.atom.map fun a ↦ a == .null else l.absent

end Leaf

end Tree

/-- A document: scalars, lists and tables. Keys are trees, in the order of the document and possibly
repeated. `marked` lists and tables carry a type of their own. `broken` stands where the text stops
making sense. -/
inductive Tree where
  | leaf (l : Tree.Leaf)
  | list (marked : Bool) (items : List Tree)
  | table (marked : Bool) (fields : List (Tree × Tree))
  | link (anchor : Nat)
  | broken

end TelemetrySim
