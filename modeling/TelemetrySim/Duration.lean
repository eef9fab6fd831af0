import TelemetrySim.Text.Blank

/-!
Lengths of time. A duration is a whole number of nanoseconds, of fewer than `2 ^ 64` seconds. It is
read from a sequence of numbers with units (`1h 30m`, `1.5s`) and written from the largest unit
down, leaving out units that do not occur.
-/

set_option autoImplicit false
set_option relaxedAutoImplicit false

namespace TelemetrySim

/-- A length of time in nanoseconds. -/
structure Duration where
  nanos : Nat
deriving DecidableEq

namespace Duration

def nanosPerSecond : Nat := 1000000000

def zero : Duration := ⟨0⟩

def ofSeconds (n : Nat) : Duration := ⟨n * nanosPerSecond⟩

def ofMillis (n : Nat) : Duration := ⟨n * 1000000⟩

def isZero (d : Duration) : Bool := d.nanos == 0

def seconds (d : Duration) : Nat := d.nanos / nanosPerSecond

def subsecNanos (d : Duration) : Nat := d.nanos % nanosPerSecond

theorem isZero_iff (d : Duration) : d.isZero = true ↔ d = zero := by
  cases d
  simp [isZero, zero]

inductive Scale where
  | nanosecond | microsecond | millisecond | second | minute | hour | day | week | month | year
deriving DecidableEq

namespace Scale

def named (s : String) : Option Scale :=
  if s ∈ ["nanos", "nsec", "ns"] then some nanosecond
  else if s ∈ ["usec", "us", "µs"] then some microsecond
  else if s ∈ ["millis", "msec", "ms"] then some millisecond
  else if s ∈ ["seconds", "second", "secs", "sec", "s"] then some second
  else if s ∈ ["minutes", "minute", "min", "mins", "m"] then some minute
  else if s ∈ ["hours", "hour", "hrs", "hr", "h"] then some hour
  else if s ∈ ["days", "day", "d"] then some day
  else if s ∈ ["weeks", "week", "wks", "wk", "w"] then some week
  else if s ∈ ["months", "month", "M"] then some month
  else if s ∈ ["years", "year", "yrs", "yr", "y"] then some year
  else none

/-- Whether a count of the unit is kept in nanoseconds; the other units are kept in seconds. -/
def isFine : Scale → Bool
  | nanosecond | microsecond | millisecond => true
  | _ => false

/-- The unit in nanoseconds if it is fine, else in seconds. A month is a twelfth of a year of
365.25 days. -/
def factor : Scale → Nat
  | nanosecond => 1
  | microsecond => 1000
  | millisecond => 1000000
  | second => 1
  | minute => 60
  | hour => 3600
  | day => 86400
  | week => 604800
  | month => 2630016
  | year => 31557600

/-- The part of a unit that a fraction may name: nanoseconds up to minutes, seconds beyond. A
nanosecond has no fractions. -/
def fraction : Scale → Option (Bool × Nat)
  | nanosecond => none
  | microsecond => some (true, 1000)
  | millisecond => some (true, 1000000)
  | second => some (true, 1000000000)
  | minute => some (true, 60000000000)
  | hour => some (false, 3600)
  | day => some (false, 86400)
  | week => some (false, 604800)
  | month => some (false, 2630016)
  | year => some (false, 31557600)

end Scale

/-- Numbers and products are bounded by 64 bits. -/
def bounded (n : Nat) : Option Nat := if n < UInt64.size then some n else none

/-- Adds a count of seconds or, if `fine`, of nanoseconds. The nanoseconds of the two must fit in 64
bits together, and so must the seconds. -/
def add? (d : Duration) (fine : Bool) (n : Nat) : Option Duration := do
  let nanos ← bounded (d.subsecNanos + (if fine then n else 0))
  let seconds ← bounded (d.seconds + (if fine then 0 else n) + nanos / nanosPerSecond)
  some ⟨seconds * nanosPerSecond + nanos % nanosPerSecond⟩

/-- The digits after a point: their value and the power of ten of their number. -/
structure Fraction where
  numerator : Nat
  denominator : Nat

/-- Adds `n` units and a fraction of one, which has to come out whole. -/
def addScaled? (d : Duration) (scale : Scale) (n : Nat) (f : Option Fraction) :
    Option Duration := do
  let whole ← bounded (n * scale.factor)
  let d ← d.add? scale.isFine whole
  match f with
  | none => some d
  | some f =>
    let (fine, parts) ← scale.fraction
    let scaled ← bounded (f.numerator * parts)
    if scaled % f.denominator = 0 then d.add? fine (scaled / f.denominator) else none

def isUnitChar (c : Char) : Bool := c.isAlpha || c == 'µ'

/-- What has been read of the current number and its unit. -/
inductive Part where
  /-- Before a number; only blanks since the last unit. -/
  | between
  /-- In the digits before a point. -/
  | whole (n : Nat)
  /-- In the digits after a point. -/
  | places (n : Nat) (f : Fraction)
  /-- In the letters of a unit, kept in reverse. -/
  | unit (n : Nat) (f : Option Fraction) (letters : List Char)

def digitOf (c : Char) : Nat := c.toNat - 48

/-- Adds the number whose unit has ended. -/
def finish (d : Duration) (n : Nat) (f : Option Fraction) (letters : List Char) :
    Option Duration := do
  let scale ← Scale.named (String.ofList letters.reverse)
  d.addScaled? scale n f

/-- Reads one character: digits gather into a number, letters into its unit; a blank is skipped
except that it ends a unit. -/
def step (d : Duration) (p : Part) (c : Char) : Option (Duration × Part) :=
  match p with
  | .between =>
    if c.isDigit then some (d, .whole (digitOf c))
    else if Text.isBlank c then some (d, .between)
    else none
  | .whole n =>
    if c.isDigit then (bounded (10 * n + digitOf c)).map fun n ↦ (d, .whole n)
    else if Text.isBlank c then some (d, .whole n)
    else if isUnitChar c then some (d, .unit n none [c])
    else if c = '.' then some (d, .places n ⟨0, 1⟩)
    else none
  | .places n f =>
    if c.isDigit then do
      let denominator ← bounded (10 * f.denominator)
      let numerator ← bounded (10 * f.numerator + digitOf c)
      some (d, .places n ⟨numerator, denominator⟩)
    else if Text.isBlank c then some (d, .places n f)
    else if isUnitChar c ∧ f.denominator ≠ 1 then some (d, .unit n (some f) [c])
    else none
  | .unit n f letters =>
    if c.isDigit then (finish d n f letters).map fun d ↦ (d, .whole (digitOf c))
    else if Text.isBlank c then (finish d n f letters).map fun d ↦ (d, .between)
    else if isUnitChar c then some (d, .unit n f (c :: letters))
    else none

def readFrom (d : Duration) (p : Part) : List Char → Option Duration
  | [] =>
    match p with
    | .between => some d
    | .unit n f letters => finish d n f letters
    | _ => none
  | c :: cs => do
    let (d, p) ← step d p c
    readFrom d p cs

/-- Reads `0`, or at least one number with its unit. -/
def read (s : String) : Option Duration :=
  if s = "0" then some zero
  else if s.toList.all Text.isBlank then none
  else readFrom zero .between s.toList

/-- A count with its unit, left out when the count is zero. -/
def piece (n : Nat) (unit : String) : List String :=
  if n = 0 then [] else [toString n ++ unit]

/-- A count with a unit that takes the plural. -/
def pluralPiece (n : Nat) (unit : String) : List String :=
  piece n (if 1 < n then unit ++ "s" else unit)

def text (d : Duration) : String :=
  if d.isZero then "0s"
  else
    let years := d.seconds / 31557600
    let yearRest := d.seconds % 31557600
    let months := yearRest / 2630016
    let monthRest := yearRest % 2630016
    let days := monthRest / 86400
    let dayRest := monthRest % 86400
    let nanos := d.subsecNanos
    String.intercalate " "
      (pluralPiece years "year" ++ pluralPiece months "month" ++ pluralPiece days "day" ++
        piece (dayRest / 3600) "h" ++ piece (dayRest % 3600 / 60) "m" ++ piece (dayRest % 60) "s" ++
        piece (nanos / 1000000) "ms" ++ piece (nanos / 1000 % 1000) "us" ++
        piece (nanos % 1000) "ns")

end Duration

end TelemetrySim
