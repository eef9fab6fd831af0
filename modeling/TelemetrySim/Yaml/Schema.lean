import TelemetrySim.Tree
import TelemetrySim.Number.Bounds
import TelemetrySim.Number.Decimal
import TelemetrySim.Yaml.Token

/-!
The types of YAML scalars. A plain scalar reads as whatever its place asks for, as far as its text
allows. Where the place does not ask, the text decides: null, a boolean, a whole number, a float, or
else a text. A tag can decide instead, and a tag of the document's own makes a value of no known
type.
-/

set_option autoImplicit false
set_option relaxedAutoImplicit false

namespace TelemetrySim.Yaml

open TelemetrySim.Tree (Leaf Atom)
open Number (Binary64)

def isNullText (s : String) : Bool := s ∈ ["null", "Null", "NULL", "~"]

def boolOf? (s : String) : Option Bool :=
  if s ∈ ["true", "True", "TRUE"] then some true
  else if s ∈ ["false", "False", "FALSE"] then some false
  else none

/-- Digits with a needless zero in front, which are no number. -/
def isZeroPadded (cs : List Char) : Bool :=
  let cs := match cs with
    | c :: r => if c = '-' ∨ c = '+' then r else c :: r
    | [] => []
  match cs with
  | '0' :: d :: r => (d :: r).all Char.isDigit
  | _ => false

/-- A whole number after its sign: in base 16, 8 or 2 with its mark, else decimal. -/
def magnitudeOf? (cs : List Char) : Option Nat :=
  let marked := match cs with
    | '0' :: 'x' :: r => Number.readNat 16 r
    | '0' :: 'o' :: r => Number.readNat 8 r
    | '0' :: 'b' :: r => Number.readNat 2 r
    | _ => none
  marked.or (if isZeroPadded cs then none else Number.readNat 10 cs)

/-- A whole number without a minus sign. -/
def natOf? (s : String) : Option Nat :=
  match s.toList with
  | '+' :: r => magnitudeOf? r
  | cs => magnitudeOf? cs

def intOf? (s : String) : Option Int :=
  match s.toList with
  | '-' :: r => (magnitudeOf? r).map fun n ↦ -(n : Int)
  | _ => (natOf? s).map fun n ↦ (n : Int)

/-- A float: a decimal that is finite, or one of the names of infinity and of no number. -/
def floatOf? (s : String) : Option Binary64 :=
  if s ∈ [".inf", ".Inf", ".INF", "+.inf", "+.Inf", "+.INF"] then some (.infinite false)
  else if s ∈ ["-.inf", "-.Inf", "-.INF"] then some (.infinite true)
  else if s ∈ [".nan", ".NaN", ".NAN"] then some .nan
  else
    match Number.readDecimal s.toList with
    | some (.finite negative m e) => some (.finite negative m e)
    | _ => none

/-- A whole number as an atom: one of 64 bits with or without sign. Beyond that it has no type. -/
def intAtom (i : Int) : Option Atom :=
  if Number.fitsInt64 i || Number.fitsUInt64 i then some (.int i) else none

/-- Whether a whole number has at most 128 bits, with or without a sign. -/
def isWide (i : Int) : Bool :=
  -0x80000000000000000000000000000000 ≤ i && i < 0x100000000000000000000000000000000

/-- The value of a plain text. A number too wide for 128 bits is a float. -/
def plainAtom (s : String) : Option Atom :=
  if s = "" ∨ isNullText s then some .null
  else
    match boolOf? s with
    | some b => some (.bool b)
    | none =>
      match (intOf? s).filter isWide with
      | some i => intAtom i
      | none =>
        match if isZeroPadded s.toList then none else floatOf? s with
        | some x => some (.float x)
        | none => some (.text s)

def coreTag (name : String) : String := "tag:yaml.org,2002:" ++ name

/-- A tag that names a type of the document's own. -/
def isOwnTag (tag : String) : Bool := tag.startsWith "!" && tag ≠ "!"

/-- The value of a scalar where the place does not ask for a type. -/
def atomOf (s : String) (style : Style) (tag : Option String) : Option Atom :=
  match tag with
  | none => if style = .plain then plainAtom s else some (.text s)
  | some t =>
    if isOwnTag t then none
    else if t = coreTag "bool" then (boolOf? s).map .bool
    else if t = coreTag "int" then ((intOf? s).filter isWide).bind intAtom
    else if t = coreTag "float" then (floatOf? s).map .float
    else if t = coreTag "null" then if isNullText s then some .null else none
    else if t = "!" ∧ style = .plain then plainAtom s
    else some (.text s)

/-- Whether a scalar in an optional place counts as left out. A tag makes it count as written,
unless it is the tag of null, which has to be true. -/
def absentOf (s : String) (style : Style) (tag : Option String) : Option Bool :=
  if style ≠ .plain then some false
  else
    match tag with
    | none => some (s = "" || isNullText s)
    | some t =>
      if t = coreTag "null" then if isNullText s then some true else none else some false

/-- A type can be asked of a plain scalar, and of a literal block that carries its tag. -/
def asks (style : Style) (tag : Option String) (name : String) : Bool :=
  style == .plain || (style == .literal && tag == some (coreTag name))

def leaf (s : String) (style : Style) (tag : Option String) : Leaf where
  text := some s
  int := if asks style tag "int" then intOf? s else none
  nat := if asks style tag "int" then natOf? s else none
  bool := if asks style tag "bool" then boolOf? s else none
  absent := absentOf s style tag
  blank := s = "" && style == .plain
  atom := atomOf s style tag

end TelemetrySim.Yaml
