/-!
Positions in a YAML text. A cursor holds the text that is left together with the place it starts at:
the number of characters before it, its line and its column. Five characters end a line; all but the
line and paragraph separators count as a line feed in the text that is read.
-/

set_option autoImplicit false
set_option relaxedAutoImplicit false

namespace TelemetrySim.Yaml

def isBreak (c : Char) : Bool :=
  c == '\n' || c == '\r' || c.toNat == 0x85 || c.toNat == 0x2028 || c.toNat == 0x2029

/-- A space or a tab. -/
def isGap (c : Char) : Bool := c == ' ' || c == '\t'

def isGapOrBreak (c : Char) : Bool := isGap c || isBreak c

/-- The characters of anchors, directive names and tag handles. -/
def isWordChar (c : Char) : Bool := c.isAlphanum || c == '_' || c == '-'

/-- A character that a text may hold. -/
def isAllowed (c : Char) : Bool :=
  let n := c.toNat
  n == 9 || n == 10 || n == 13 || (0x20 ≤ n && n ≤ 0x7e) || n == 0x85 || (0xa0 ≤ n && n ≤ 0xfffd) ||
    0x10000 ≤ n

structure Cursor where
  rest : List Char
  index : Nat := 0
  line : Nat := 0
  column : Nat := 0

namespace Cursor

def head? (c : Cursor) : Option Char := c.rest.head?

/-- Whether the next character is `x`. -/
def at? (c : Cursor) (x : Char) : Bool := c.rest.head? == some x

/-- Whether the text ends, or has a blank or the end of a line, after `n` more characters. -/
def gapAfter (c : Cursor) (n : Nat) : Bool :=
  match c.rest[n]? with
  | none => true
  | some x => isGapOrBreak x

def atBreak (c : Cursor) : Bool := c.rest.head?.any isBreak

def atGap (c : Cursor) : Bool := c.rest.head?.any isGap

/-- Whether the line ends here. -/
def atLineEnd (c : Cursor) : Bool := c.rest.isEmpty || c.atBreak

/-- Moves over `n` characters of the line. -/
def skip (c : Cursor) (n : Nat := 1) : Cursor :=
  { c with rest := c.rest.drop n, index := c.index + n, column := c.column + n }

/-- Moves over the characters at the front for which `p` holds. -/
def skipWhile (c : Cursor) (p : Char → Bool) : Cursor :=
  { c with
    rest := c.rest.dropWhile p
    index := c.index + (c.rest.takeWhile p).length
    column := c.column + (c.rest.takeWhile p).length }

/-- Moves over the end of a line and says what it reads as. -/
def readBreak (c : Cursor) : List Char × Cursor :=
  match c.rest with
  | '\r' :: '\n' :: r => (['\n'], { rest := r, index := c.index + 2, line := c.line + 1 })
  | x :: r =>
    let next : Cursor := { rest := r, index := c.index + 1, line := c.line + 1 }
    if x.toNat = 0x2028 ∨ x.toNat = 0x2029 then ([x], next)
    else if isBreak x then (['\n'], next)
    else ([], c)
  | [] => ([], c)

/-- Moves over blanks, a comment and the end of the line; `none` if something else is on it. -/
def finishLine (c : Cursor) : Option Cursor :=
  let c := c.skipWhile isGap
  let c := if c.at? '#' then c.skipWhile (!isBreak ·) else c
  if c.atLineEnd then some c.readBreak.2 else none

/-- Three dashes or three points at the start of a line, with nothing attached. -/
def atIndicator (c : Cursor) (x : Char) : Bool :=
  c.column == 0 && c.rest.take 3 == [x, x, x] && c.gapAfter 3

def atDocumentIndicator (c : Cursor) : Bool := c.atIndicator '-' || c.atIndicator '.'

end Cursor

end TelemetrySim.Yaml
