import TelemetrySim.Number.Decimal

/-!
TOML strings. A basic string has escapes, a literal string has none; both have a form over several
lines, in which a line break directly behind the opening quotes is dropped. Each reader takes the
text behind the opening quotes and gives the string and the text behind the closing ones.
-/

set_option autoImplicit false
set_option relaxedAutoImplicit false

namespace TelemetrySim.Toml

def isGap (c : Char) : Bool := c == ' ' || c == '\t'

/-- A character that may stand for itself: no control character other than the tab. -/
def isPrintable (c : Char) : Bool := c == '\t' || (0x20 ≤ c.toNat && c.toNat ≠ 0x7f)

def prepend (c : Char) : Option (List Char × List Char) → Option (List Char × List Char)
  | some (s, r) => some (c :: s, r)
  | none => none

def escape (c : Char) : Option Char :=
  match c with
  | 'b' => some (Char.ofNat 8)
  | 't' => some '\t'
  | 'n' => some '\n'
  | 'f' => some (Char.ofNat 12)
  | 'r' => some '\r'
  | '"' => some '"'
  | '\\' => some '\\'
  | _ => none

/-- The character of a code point in hexadecimal digits. -/
def codePoint (ds : List Char) : Option Char := do
  let n ← Number.readNat 16 ds
  if Nat.isValidChar n then some (Char.ofNat n) else none

/-- An escape behind its backslash. -/
def readEscape (cs : List Char) : Option (Char × List Char) :=
  match cs with
  | 'u' :: r =>
    if (r.take 4).length = 4 then (codePoint (r.take 4)).map fun c ↦ (c, r.drop 4) else none
  | 'U' :: r =>
    if (r.take 8).length = 8 then (codePoint (r.take 8)).map fun c ↦ (c, r.drop 8) else none
  | c :: r => (escape c).map fun c ↦ (c, r)
  | [] => none

def basic : Nat → List Char → Option (List Char × List Char)
  | 0, _ => none
  | fuel + 1, cs =>
    match cs with
    | [] => none
    | '"' :: r => some ([], r)
    | '\\' :: r => (readEscape r).bind fun (c, r) ↦ prepend c (basic fuel r)
    | c :: r => if isPrintable c then prepend c (basic fuel r) else none

def literal : List Char → Option (List Char × List Char)
  | [] => none
  | '\'' :: r => some ([], r)
  | c :: r => if isPrintable c then prepend c (literal r) else none

/-- A line break behind the opening quotes is dropped. -/
def dropFirstBreak : List Char → List Char
  | '\n' :: r => r
  | '\r' :: '\n' :: r => r
  | cs => cs

/-- The end of a line, as it reads in a string. -/
def lineBreak? : List Char → Option (List Char)
  | '\n' :: r => some r
  | '\r' :: '\n' :: r => some r
  | _ => none

/-- The text behind blanks and line ends. -/
def dropBlank : Nat → List Char → List Char
  | 0, cs => cs
  | fuel + 1, cs =>
    let cs := cs.dropWhile isGap
    match lineBreak? cs with
    | some r => dropBlank fuel r
    | none => cs

/-- At a run of quotes of a string over several lines: at least three close it, of which up to two
in front belong to the string. -/
def closing (quote : Char) (cs : List Char) : Option (List Char × List Char) :=
  let n := (cs.takeWhile (· == quote)).length
  if n < 3 then none
  else
    let inside := min (n - 3) 2
    some (List.replicate inside quote, cs.drop (inside + 3))

def basicLines : Nat → List Char → Option (List Char × List Char)
  | 0, _ => none
  | fuel + 1, cs =>
    match closing '"' cs with
    | some (s, r) => some (s, r)
    | none =>
      match lineBreak? cs with
      | some r => prepend '\n' (basicLines fuel r)
      | none =>
        match cs with
        | [] => none
        | '\\' :: r =>
          match lineBreak? (r.dropWhile isGap) with
          | some r => basicLines fuel (dropBlank fuel r)
          | none => (readEscape r).bind fun (c, r) ↦ prepend c (basicLines fuel r)
        | c :: r => if isPrintable c then prepend c (basicLines fuel r) else none

def literalLines : Nat → List Char → Option (List Char × List Char)
  | 0, _ => none
  | fuel + 1, cs =>
    match closing '\'' cs with
    | some (s, r) => some (s, r)
    | none =>
      match lineBreak? cs with
      | some r => prepend '\n' (literalLines fuel r)
      | none =>
        match cs with
        | [] => none
        | c :: r => if isPrintable c then prepend c (literalLines fuel r) else none

def toText : Option (List Char × List Char) → Option (String × List Char)
  | some (s, r) => some (String.ofList s, r)
  | none => none

/-- A string on one line. -/
def shortString (fuel : Nat) : List Char → Option (String × List Char)
  | '"' :: r => toText (basic fuel r)
  | '\'' :: r => toText (literal r)
  | _ => none

def string (fuel : Nat) : List Char → Option (String × List Char)
  | '"' :: '"' :: '"' :: r => toText (basicLines fuel (dropFirstBreak r))
  | '\'' :: '\'' :: '\'' :: r => toText (literalLines fuel (dropFirstBreak r))
  | cs => shortString fuel cs

end TelemetrySim.Toml
