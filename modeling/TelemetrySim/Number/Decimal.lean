import TelemetrySim.Number.Binary64

/-!
Numbers as text: digits in a base with an optional bound, and decimal numbers with a point and an
exponent.
-/

set_option autoImplicit false
set_option relaxedAutoImplicit false

namespace TelemetrySim.Number

/-- The value of a digit in bases up to sixteen. -/
def digitValue (c : Char) : Option Nat :=
  if '0' ≤ c ∧ c ≤ '9' then some (c.toNat - 48)
  else if 'a' ≤ c ∧ c ≤ 'f' then some (c.toNat - 87)
  else if 'A' ≤ c ∧ c ≤ 'F' then some (c.toNat - 55)
  else none

/-- One digit more, if it is one of the base. -/
def pushDigit (base : Nat) (n : Nat) (c : Char) : Option Nat :=
  match digitValue c with
  | some d => if d < base then some (base * n + d) else none
  | none => none

/-- A natural number in the base, of at least one digit and nothing else. -/
def readNat (base : Nat) : List Char → Option Nat
  | [] => none
  | cs => cs.foldlM (pushDigit base) 0

def isDigit (c : Char) : Bool := c.isDigit

/-- Digits in front of the text, and the rest. -/
def spanDigits (cs : List Char) : List Char × List Char :=
  (cs.takeWhile isDigit, cs.dropWhile isDigit)

/-- The value of a run of decimal digits. -/
def digitsValue (cs : List Char) : Nat := cs.foldl (fun n c ↦ 10 * n + (c.toNat - 48)) 0

/-- An exponent after its `e`: an optional sign and at least one digit. -/
def readExponent (cs : List Char) : Option Int :=
  let (negative, cs) := match cs with
    | '-' :: r => (true, r)
    | '+' :: r => (false, r)
    | r => (false, r)
  if cs ≠ [] ∧ cs.all isDigit then
    let n : Int := digitsValue cs
    some (if negative then -n else n)
  else none

/-- An unsigned decimal: digits with at most one point and at least one digit, and an optional
exponent. -/
def readUnsignedDecimal (cs : List Char) : Option (Nat × Int) :=
  let (whole, rest) := spanDigits cs
  let (places, rest) := match rest with
    | '.' :: r => spanDigits r
    | r => ([], r)
  if whole = [] ∧ places = [] then none
  else
    let digits := digitsValue (whole ++ places)
    let shift : Int := -(places.length : Int)
    match rest with
    | [] => some (digits, shift)
    | c :: r => if c = 'e' ∨ c = 'E' then (readExponent r).map fun x ↦ (digits, shift + x) else none

/-- A decimal with an optional sign, to the nearest number of 64 bits. -/
def readDecimal (cs : List Char) : Option Binary64 :=
  let (negative, cs) := match cs with
    | '-' :: r => (true, r)
    | '+' :: r => (false, r)
    | r => (false, r)
  (readUnsignedDecimal cs).map fun (digits, exponent) ↦ Binary64.ofDecimal negative digits exponent

end TelemetrySim.Number
