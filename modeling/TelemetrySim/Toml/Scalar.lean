import TelemetrySim.Number.Bounds
import TelemetrySim.Toml.Text
import TelemetrySim.Tree

/-!
TOML numbers, booleans and date-times. They are read from a word that ends before blanks, brackets,
commas and comments.
-/

set_option autoImplicit false
set_option relaxedAutoImplicit false

namespace TelemetrySim.Toml

open Number (Binary64)

/-- Removes underscores that stand between two digits; others are refused. -/
def dropUnderscores (isDigit : Char → Bool) : List Char → Option (List Char)
  | [] => some []
  | [c] => if isDigit c then some [c] else none
  | c :: '_' :: d :: r =>
    if isDigit c && isDigit d then (dropUnderscores isDigit (d :: r)).map (c :: ·) else none
  | c :: r => if isDigit c then (dropUnderscores isDigit r).map (c :: ·) else none

def digits? (base : Nat) (cs : List Char) : Option Nat := do
  let ds ← dropUnderscores (fun c ↦ (Number.pushDigit base 0 c).isSome) cs
  Number.readNat base ds

def splitSign : List Char → Bool × List Char
  | '-' :: r => (true, r)
  | '+' :: r => (false, r)
  | cs => (false, cs)

/-- Decimal digits without a needless zero in front. -/
def decimal? (cs : List Char) : Option Nat :=
  match cs with
  | '0' :: _ :: _ => none
  | _ => digits? 10 cs

/-- A whole number of 64 bits: decimal with an optional sign, or marked with its base. -/
def integer? (cs : List Char) : Option Int := do
  let i : Int ← match cs with
    | '0' :: 'x' :: r => (digits? 16 r).map Int.ofNat
    | '0' :: 'o' :: r => (digits? 8 r).map Int.ofNat
    | '0' :: 'b' :: r => (digits? 2 r).map Int.ofNat
    | _ =>
      let (negative, r) := splitSign cs
      (decimal? r).map fun n ↦ if negative then -(n : Int) else n
  if Number.fitsInt64 i then some i else none

def isExponentMark (c : Char) : Bool := c == 'e' || c == 'E'

/-- A float: a whole part, and a fraction or an exponent or both; or the name of infinity or of no
number. One that is too large is refused. -/
def float? (cs : List Char) : Option Binary64 := do
  let (negative, r) := splitSign cs
  if r = "inf".toList then some (.infinite negative)
  else if r = "nan".toList then some .nan
  else
    let mantissa := r.takeWhile (!isExponentMark ·)
    let exponent := r.dropWhile (!isExponentMark ·)
    let whole := mantissa.takeWhile (· ≠ '.')
    let fraction := mantissa.dropWhile (· ≠ '.')
    if fraction = [] ∧ exponent = [] then none
    else
      let _ ← decimal? whole
      let ds ← dropUnderscores Char.isDigit whole
      let places ← match fraction with
        | [] => some []
        | _ :: p => if p = [] then none else dropUnderscores Char.isDigit p
      let shift : Int ← match exponent with
        | [] => some 0
        | _ :: x =>
          let (down, x) := splitSign x
          (digits? 10 x).map fun n ↦ if down then -(n : Int) else n
      let x := Binary64.ofDecimal negative (Number.digitsValue (ds ++ places))
        (shift - places.length)
      if x = .infinite false then none else some x

/-! ### Date-times -/

/-- `n` decimal digits in front of the text, whose value lies between two bounds. -/
def fixed (n low high : Nat) (cs : List Char) : Option (Nat × List Char) :=
  let ds := cs.take n
  let v := Number.digitsValue ds
  if ds.length = n ∧ ds.all Char.isDigit ∧ low ≤ v ∧ v ≤ high then some (v, cs.drop n) else none

def expect (c : Char) : List Char → Option (List Char)
  | d :: r => if c = d then some r else none
  | [] => none

def daysInMonth (year month : Nat) : Nat :=
  if month = 2 then
    if year % 4 = 0 ∧ (year % 100 ≠ 0 ∨ year % 400 = 0) then 29 else 28
  else if month ∈ [4, 6, 9, 11] then 30
  else 31

/-- A date, as it is written out. -/
def date (cs : List Char) : Option (List Char × List Char) := do
  let (year, r) ← fixed 4 0 9999 cs
  let r ← expect '-' r
  let (month, r) ← fixed 2 1 12 r
  let r ← expect '-' r
  let (_, r) ← fixed 2 1 (daysInMonth year month) r
  some (cs.take 10, r)

/-- The fraction of a second: at most nine digits, without zeros at the end. -/
def secondFraction (ds : List Char) : List Char :=
  match ((ds.take 9).reverse.dropWhile (· == '0')).reverse with
  | [] => []
  | ds => '.' :: ds

def time (cs : List Char) : Option (List Char × List Char) := do
  let (_, r) ← fixed 2 0 23 cs
  let r ← expect ':' r
  let (_, r) ← fixed 2 0 59 r
  let r ← expect ':' r
  let (_, r) ← fixed 2 0 60 r
  match r with
  | '.' :: f =>
    let ds := f.takeWhile Char.isDigit
    if ds = [] then none
    else some (cs.take 8 ++ secondFraction ds, f.dropWhile Char.isDigit)
  | _ => some (cs.take 8, r)

def offset (cs : List Char) : Option (List Char × List Char) :=
  match cs with
  | 'Z' :: r => some (['Z'], r)
  | 'z' :: r => some (['Z'], r)
  | c :: r => do
    if c = '+' ∨ c = '-' then
      let (_, rest) ← fixed 2 0 23 r
      let rest ← expect ':' rest
      let (_, rest) ← fixed 2 0 59 rest
      some (cs.take 6, rest)
    else none
  | [] => none

/-- A time behind a date, with an optional offset. -/
def timeOfDay (day cs : List Char) : Option (List Char × List Char) := do
  let (t, r) ← time cs
  match offset r with
  | some (o, r) => some (day ++ 'T' :: t ++ o, r)
  | none => some (day ++ 'T' :: t, r)

/-- A date, a time, or both. -/
def dateTime (cs : List Char) : Option (List Char × List Char) :=
  match date cs with
  | none => time cs
  | some (day, r) =>
    match r with
    | c :: rest =>
      if c = 'T' ∨ c = 't' then timeOfDay day rest
      else if c = ' ' ∧ rest.head?.any Char.isDigit then timeOfDay day rest
      else some (day, r)
    | [] => some (day, r)

/-! ### Words -/

inductive Scalar where
  | atom (a : Tree.Atom)
  | dateTime (text : String)

def isWordChar (c : Char) : Bool :=
  c.isAlphanum || c == '+' || c == '-' || c == '.' || c == '_' || c == ':'

/-- A number, a boolean or a date-time. -/
def scalar (cs : List Char) : Option (Scalar × List Char) :=
  match dateTime cs with
  | some (d, r) => if r.head?.any isWordChar then none else some (.dateTime (String.ofList d), r)
  | none =>
    let word := cs.takeWhile isWordChar
    let rest := cs.dropWhile isWordChar
    if word = "true".toList then some (.atom (.bool true), rest)
    else if word = "false".toList then some (.atom (.bool false), rest)
    else
      match integer? word with
      | some i => some (.atom (.int i), rest)
      | none => (float? word).map fun x ↦ (.atom (.float x), rest)

end TelemetrySim.Toml
