/-!
Binary floating-point numbers of 64 bits, as data. A finite number is kept as mantissa and exponent,
so that reading a decimal (to the nearest number, ties to the even mantissa) and finding the fewest
digits that read back are exact computations on natural numbers.
-/

set_option autoImplicit false
set_option relaxedAutoImplicit false

namespace TelemetrySim.Number

/-- `finite s m e` is `m * 2 ^ e`, negated if `s`; `m < 2 ^ 53` and `-1074 ≤ e ≤ 971`. -/
inductive Binary64 where
  | finite (negative : Bool) (mantissa : Nat) (exponent : Int)
  | infinite (negative : Bool)
  | nan
deriving DecidableEq

/-- `a / b` to the nearest integer, a tie to the even one. -/
def roundDiv (a b : Nat) : Nat :=
  let q := a / b
  let r := a % b
  if b < 2 * r ∨ (2 * r = b ∧ q % 2 = 1) then q + 1 else q

/-- The number of decimal digits of `n`; one for zero. -/
def decimalLength (n : Nat) : Nat := (Nat.toDigits 10 n).length

namespace Binary64

/-- The mantissa `2 ^ 52`, the least one of full length. -/
def leastFull : Nat := 0x10000000000000

/-- Numerator and denominator of `a / b` in units of `2 ^ e`. -/
def inUnits (a b : Nat) (e : Int) : Nat × Nat :=
  (a * Nat.pow 2 (-e).toNat, b * Nat.pow 2 e.toNat)

/-- The number nearest to `a / b`. -/
def ofRatio (negative : Bool) (a b : Nat) : Binary64 :=
  if a = 0 then finite negative 0 (-1074)
  else
    let guess : Int := (Nat.log2 a : Int) - Nat.log2 b - 52
    let (p, q) := inUnits a b guess
    let exponent := max (if p / q < leastFull then guess - 1 else guess) (-1074)
    let (p, q) := inUnits a b exponent
    let mantissa := roundDiv p q
    let (mantissa, exponent) :=
      if mantissa = 2 * leastFull then (leastFull, exponent + 1) else (mantissa, exponent)
    if 971 < exponent then infinite negative else finite negative mantissa exponent

/-- The number nearest to `digits * 10 ^ exponent`. Magnitudes beyond all finite numbers, and those
below half of the least one, are decided by the position of the first digit alone. -/
def ofDecimal (negative : Bool) (digits : Nat) (exponent : Int) : Binary64 :=
  let magnitude := exponent + decimalLength digits
  if digits = 0 ∨ magnitude < -330 then finite negative 0 (-1074)
  else if 310 < magnitude then infinite negative
  else ofRatio negative (digits * Nat.pow 10 exponent.toNat) (Nat.pow 10 (-exponent).toNat)

def ofInt (i : Int) : Binary64 := ofDecimal (i < 0) i.natAbs 0

/-- Decimal digits and the power of ten of their last place. -/
structure Digits where
  digits : Nat
  exponent : Int
deriving DecidableEq

/-- Drops trailing zeros, at most `fuel` of them. -/
def Digits.stripZeros (d : Digits) : Nat → Digits
  | 0 => d
  | fuel + 1 =>
    if d.digits % 10 = 0 ∧ d.digits ≠ 0 then
      Digits.stripZeros ⟨d.digits / 10, d.exponent + 1⟩ fuel
    else d

/-- The exponent of the leading digit of `a / b`. -/
def leadingPlace (a b : Nat) : Int :=
  let guess : Int := (decimalLength a : Int) - decimalLength b
  if b * Nat.pow 10 guess.toNat ≤ a * Nat.pow 10 (-guess).toNat then guess else guess - 1

/-- On the grid of `n`-digit decimals, the neighbour of `m * 2 ^ e` that reads back, if there is
one: of two the nearer, and on a tie the even one. -/
def onGrid (m : Nat) (e : Int) (n : Nat) : Option Digits :=
  let quarter := e - 2
  let low := if m = leastFull ∧ -1074 < e then 4 * m - 1 else 4 * m - 2
  let high := 4 * m + 2
  let top := leadingPlace (m * Nat.pow 2 e.toNat) (Nat.pow 2 (-e).toNat)
  let place := top - ((n : Int) - 1)
  let step := Nat.pow 10 place.toNat * Nat.pow 2 (-quarter).toNat
  let unit := Nat.pow 2 quarter.toNat * Nat.pow 10 (-place).toNat
  let below := 4 * m * unit / step
  let readsBack (c : Nat) : Bool :=
    if m % 2 = 0 then low * unit ≤ c * step ∧ c * step ≤ high * unit
    else low * unit < c * step ∧ c * step < high * unit
  let above := below + 1
  match readsBack below, readsBack above with
  | false, false => none
  | true, false => some ⟨below, place⟩
  | false, true => some ⟨above, place⟩
  | true, true =>
    let down := 4 * m * unit - below * step
    let up := above * step - 4 * m * unit
    if down < up ∨ (down = up ∧ below % 2 = 0) then some ⟨below, place⟩ else some ⟨above, place⟩

/-- The fewest digits that read back as `m * 2 ^ e`, for a positive mantissa. -/
def shortest (m : Nat) (e : Int) : Digits :=
  let rec search (n : Nat) : Nat → Digits
    | 0 => ⟨m * Nat.pow 2 e.toNat, 0⟩
    | fuel + 1 => (onGrid m e n).getD (search (n + 1) fuel)
  (search 1 17).stripZeros 20

end Binary64

/-- `digits * 10 ^ exponent` with a point where it is needed and never an exponent. -/
def Binary64.Digits.positional (d : Binary64.Digits) : String :=
  let ds := Nat.toDigits 10 d.digits
  if 0 ≤ d.exponent then String.ofList (ds ++ List.replicate d.exponent.toNat '0')
  else
    let places := (-d.exponent).toNat
    if places < ds.length then
      String.ofList (ds.take (ds.length - places) ++ '.' :: ds.drop (ds.length - places))
    else String.ofList ('0' :: '.' :: List.replicate (places - ds.length) '0' ++ ds)

/-- The shortest decimal that reads back, positional at every magnitude, without a point for a
whole number. -/
def Binary64.plainText : Binary64 → String
  | finite negative m e =>
    (if negative then "-" else "") ++ (if m = 0 then "0" else (shortest m e).positional)
  | infinite negative => if negative then "-inf" else "inf"
  | nan => "NaN"

/-- The text of a number in a JSON document: positional with at least one decimal place between
`1e-5` and `1e16`, else with an exponent. -/
def Binary64.jsonText : Binary64 → String
  | finite negative m e =>
    let sign := if negative then "-" else ""
    if m = 0 then sign ++ "0.0"
    else
      let d := shortest m e
      let ds := Nat.toDigits 10 d.digits
      let point : Int := d.exponent + ds.length
      if 0 ≤ d.exponent ∧ point ≤ 16 then sign ++ d.positional ++ ".0"
      else if -5 < point ∧ point ≤ 16 then sign ++ d.positional
      else
        let mantissa := match ds with
          | [] => []
          | [c] => [c]
          | c :: cs => c :: '.' :: cs
        sign ++ String.ofList mantissa ++ "e" ++ toString (point - 1)
  | infinite _ => "null"
  | nan => "null"

end TelemetrySim.Number
