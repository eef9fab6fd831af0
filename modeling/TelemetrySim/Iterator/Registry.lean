import TelemetrySim.Decl.Basic
import TelemetrySim.Decl.Section
import TelemetrySim.Iterator.Combination
import TelemetrySim.Text.Ident
import TelemetrySim.Text.Quoted

/-!
Declared iterators: names with ordered domains of distinct values.
-/

set_option autoImplicit false
set_option relaxedAutoImplicit false

namespace TelemetrySim

/-- Why a declaration of an iterator, or a use of one, fails. -/
inductive ExpansionError where
  | unknown (name : String)
  | empty (name : String)
  | duplicate (name value : String)
  | invalidName (name : String)
  | invalidStep (name : String) (step : Int64)
  | noCombinations
  | inEntry (s : Decl.Section) (index : Nat) (cause : ExpansionError)
deriving DecidableEq

def ExpansionError.message : ExpansionError → String
  | unknown name => "iterator " ++ Text.quoted name ++ " not declared"
  | empty name => "iterator " ++ Text.quoted name ++ " produces zero results"
  | duplicate name value =>
    "iterator " ++ Text.quoted name ++ " declares value " ++ Text.quoted value ++
      " more than once"
  | invalidName name => "invalid iterator name " ++ Text.quoted name
  | invalidStep name step =>
    "iterator " ++ Text.quoted name ++ " has an invalid range: step must be positive, got " ++
      toString step.toInt
  | noCombinations => "expansion produces zero results"
  | inEntry s index cause => s.label ++ " at index " ++ toString index ++ ": " ++ cause.message

/-- The error itself, without the entry it was met in. -/
def ExpansionError.root : ExpansionError → ExpansionError
  | inEntry _ _ cause => cause.root
  | e => e

/-- How an expansion ends without a result. -/
inductive ExpansionFailure where
  | refused (e : ExpansionError)
  | panicked (p : Panic)
deriving DecidableEq

/-- An error is told where it was met. Nothing is added to a panic. -/
def ExpansionFailure.inEntry (s : Decl.Section) (index : Nat) : ExpansionFailure → ExpansionFailure
  | refused e => refused (.inEntry s index e)
  | panicked p => panicked p

/-- The first value that also occurs before it. -/
def firstRepeated : List String → List String → Option String
  | _, [] => none
  | seen, v :: rest => if v ∈ seen then some v else firstRepeated (v :: seen) rest

namespace Decl

namespace Range

/-- How many numbers there are. -/
def size (r : Range) : Nat :=
  ((r.stop.toInt - r.start.toInt + r.step.toInt - 1) / r.step.toInt).toNat

/-- The numbers `start`, `start + step`, … below `stop`. -/
def numbers (r : Range) : List Int :=
  (List.range r.size).map fun (k : Nat) ↦ r.start.toInt + (k : Int) * r.step.toInt

end Range

/-- The most texts that a list can have room for, however much memory there is: each takes 24 bytes,
and all of them together at most as many as the greatest number of 64 bits with a sign. -/
def textsLimit : Nat := Int64.maxValue.toNatClampNeg / 24

/-- The values of a domain as texts. The room for those of a range is made beforehand. -/
def Domain.texts (name : String) : Domain → Except ExpansionFailure (List String)
  | .values items => .ok (items.map Scalar.render)
  | .range r =>
    if r.step ≤ 0 then .error (.refused (.invalidStep name r.step))
    else if textsLimit < r.size then .error (.panicked .capacity)
    else .ok (r.numbers.map toString)

end Decl

structure Registry where
  domains : List (String × List String) := []

namespace Registry

/-- Declares an iterator, or replaces its domain. -/
def declare (r : Registry) (name : String) (values : List String) :
    Except ExpansionError Registry :=
  if !Text.isIdent name then .error (.invalidName name)
  else if values.isEmpty then .error (.empty name)
  else
    match firstRepeated [] values with
    | some v => .error (.duplicate name v)
    | none => .ok ⟨Assoc.insert name values r.domains⟩

/-- Declares the iterators of a document in turn. -/
def ofDomains (domains : List (String × Decl.Domain)) : Except ExpansionFailure Registry :=
  domains.foldlM (fun r (name, domain) ↦ do
    let values ← domain.texts name
    (r.declare name values).mapError .refused) {}

def domain? (r : Registry) (name : String) : Option (List String) := r.domains.lookup name

/-- The domains of the names, in the order given. -/
def combinations (r : Registry) (names : List String) : Except ExpansionError Combinations := do
  let iterators ← names.mapM fun name ↦
    match r.domain? name with
    | some values => Except.ok (name, values)
    | none => Except.error (.unknown name)
  pure ⟨iterators⟩

def size (r : Registry) : Nat := r.domains.length

end Registry

end TelemetrySim
