import TelemetrySim.Yaml.Cursor
import TelemetrySim.Number.Decimal

/-!
The texts of scalars: plain, quoted and block scalars. A line break inside a scalar is folded: a
single one becomes a space, and of several the first is dropped. Each reader takes a cursor at the
start of the scalar and gives the text and the cursor behind it, or nothing if the scalar is not
well formed. `fuel` bounds the number of steps; the length of the text is enough.

Text is gathered with the latest character first, so that a step costs what it adds, and turned
round when the scalar is complete.
-/

set_option autoImplicit false
set_option relaxedAutoImplicit false

namespace TelemetrySim.Yaml

/-- Blanks and line breaks between two words of a scalar, the latest character first. -/
structure Gap where
  /-- Blanks on the line of the word before. -/
  blanks : List Char := []
  /-- What the first line break reads as; nothing if it is escaped. -/
  first : List Char := []
  /-- The line breaks that follow. -/
  more : List Char := []
  /-- Whether a line has ended. -/
  broken : Bool := false

namespace Gap

/-- What the gap contributes to the text, the latest character first. -/
def text (g : Gap) : List Char :=
  if g.broken then
    if g.first = ['\n'] then (if g.more = [] then [' '] else g.more) else g.more ++ g.first
  else g.blanks

/-- Gathers blanks and line breaks. Where `limit` is given, a tab before that column is an error
once a line has ended. -/
def gather (limit : Option Int) : Nat → Cursor → Gap → Option (Gap × Cursor)
  | 0, c, g => some (g, c)
  | fuel + 1, c, g =>
    match c.head? with
    | none => some (g, c)
    | some x =>
      if isGap x then
        if g.broken ∧ x = '\t' ∧ (limit.any fun i ↦ decide ((c.column : Int) < i)) then none
        else gather limit fuel c.skip (if g.broken then g else { g with blanks := x :: g.blanks })
      else if isBreak x then
        let (b, next) := c.readBreak
        gather limit fuel next
          (if g.broken then { g with more := b.reverseAux g.more }
           else { g with blanks := [], first := b.reverse, broken := true })
      else some (g, c)

end Gap

/-! ### Plain scalars -/

def isFlowIndicator (c : Char) : Bool :=
  c == ',' || c == '[' || c == ']' || c == '\x7b' || c == '\x7d'

/-- The characters of a plain scalar up to a blank, a line break or an indicator that ends it.
Inside brackets a colon must not touch one of the indicators there. -/
def plainWord (flow : Bool) : List Char → Option (List Char × List Char)
  | [] => some ([], [])
  | c :: cs =>
    if isGapOrBreak c then some ([], c :: cs)
    else if flow && c == ':' && cs.head?.any fun d ↦ isFlowIndicator d || d == '?' then none
    else if c == ':' && (match cs with | [] => true | d :: _ => isGapOrBreak d) then
      some ([], c :: cs)
    else if flow && isFlowIndicator c then some ([], c :: cs)
    else (plainWord flow cs).map fun (w, r) ↦ (c :: w, r)

/-- The text of a plain scalar, the latest character first, its last gap, and the cursor. -/
def plainFrom (flow : Bool) (indent : Int) :
    Nat → Cursor → Gap → List Char → Option (List Char × Gap × Cursor)
  | 0, c, g, acc => some (acc, g, c)
  | fuel + 1, c, g, acc =>
    if c.atDocumentIndicator || c.at? '#' then some (acc, g, c)
    else do
      let (word, rest) ← plainWord flow c.rest
      let n := word.length
      let c : Cursor := { c with rest := rest, index := c.index + n, column := c.column + n }
      let (acc, g) := if word = [] then (acc, g) else (word.reverseAux (g.text ++ acc), {})
      if !(c.atGap || c.atBreak) then some (acc, g, c)
      else
        let (g, c) ← g.gather (some indent) (fuel + 1) c
        if !flow && (c.column : Int) < indent then some (acc, g, c)
        else plainFrom flow indent fuel c g acc

/-- A plain scalar that is indented by at least `indent`. The flag says whether it was left by the
end of a line. -/
def plainScalar (fuel : Nat) (flow : Bool) (indent : Int) (c : Cursor) :
    Option (String × Bool × Cursor) := do
  let (text, g, c) ← plainFrom flow indent fuel c {} []
  some (String.ofList text.reverse, g.broken, c)

/-! ### Quoted scalars -/

/-- What an escape of one letter stands for. -/
def escape (c : Char) : Option Char :=
  match c with
  | '0' => some (Char.ofNat 0)
  | 'a' => some (Char.ofNat 7)
  | 'b' => some (Char.ofNat 8)
  | 't' | '\t' => some '\t'
  | 'n' => some '\n'
  | 'v' => some (Char.ofNat 11)
  | 'f' => some (Char.ofNat 12)
  | 'r' => some '\r'
  | 'e' => some (Char.ofNat 27)
  | ' ' => some ' '
  | '"' => some '"'
  | '/' => some '/'
  | '\\' => some '\\'
  | 'N' => some (Char.ofNat 0x85)
  | '_' => some (Char.ofNat 0xa0)
  | 'L' => some (Char.ofNat 0x2028)
  | 'P' => some (Char.ofNat 0x2029)
  | _ => none

/-- The number of hexadecimal digits after an escape letter. -/
def escapeLength (c : Char) : Option Nat :=
  match c with
  | 'x' => some 2
  | 'u' => some 4
  | 'U' => some 8
  | _ => none

/-- A code point that is a character. -/
def charOf? (n : Nat) : Option Char := if Nat.isValidChar n then some (Char.ofNat n) else none

/-- An escape without its backslash: the character and the number of characters that were used. -/
def readEscape (cs : List Char) : Option (Char × Nat) :=
  match cs with
  | [] => none
  | c :: r =>
    match escapeLength c with
    | some n =>
      let ds := r.take n
      if ds.length = n then do
        let value ← Number.readNat 16 ds
        let x ← charOf? value
        some (x, n + 1)
      else none
    | none => (escape c).map fun x ↦ (x, 1)

/-- The characters of a quoted scalar up to a blank, a line break or the closing quote. The flag
says that an escaped line break came last. -/
def quotedWord (single : Bool) : Nat → Cursor → Option (List Char × Bool × Cursor)
  | 0, c => some ([], false, c)
  | fuel + 1, c =>
    let read (x : Char) (n : Nat) : Option (List Char × Bool × Cursor) :=
      (quotedWord single fuel (c.skip n)).map fun (w, e, c) ↦ (x :: w, e, c)
    match c.rest with
    | [] => some ([], false, c)
    | x :: r =>
      if isGapOrBreak x then some ([], false, c)
      else if single then
        if x ≠ '\'' then read x 1
        else if r.head? = some '\'' then read x 2
        else some ([], false, c)
      else if x = '"' then some ([], false, c)
      else if x = '\\' then
        if r.head?.any isBreak then some ([], true, c.skip.readBreak.2)
        else
          match readEscape r with
          | some (y, n) => read y (n + 1)
          | none => none
      else read x 1

/-- The text of a quoted scalar, the latest character first, and the cursor behind it. -/
def quotedFrom (single : Bool) : Nat → Cursor → List Char → Option (List Char × Cursor)
  | 0, _, _ => none
  | fuel + 1, c, acc =>
    if c.atDocumentIndicator || c.rest.isEmpty then none
    else do
      let (word, escaped, c) ← quotedWord single (fuel + 1) c
      let acc := word.reverseAux acc
      if c.at? (if single then '\'' else '"') then some (acc, c.skip)
      else
        let (g, c) ← Gap.gather none (fuel + 1) c { broken := escaped }
        quotedFrom single fuel c (g.text ++ acc)

/-- A quoted scalar, from its opening quote on. -/
def quotedScalar (fuel : Nat) (single : Bool) (c : Cursor) : Option (String × Cursor) := do
  let (text, c) ← quotedFrom single fuel c.skip []
  some (String.ofList text.reverse, c)

/-! ### Block scalars -/

inductive Chomping where
  | strip | clip | keep
deriving DecidableEq

def chompingOf (c : Char) : Option Chomping :=
  if c = '+' then some .keep else if c = '-' then some .strip else none

/-- A digit from one to nine. -/
def indentDigit (c : Char) : Option Nat := if '1' ≤ c ∧ c ≤ '9' then some (c.toNat - 48) else none

/-- The chomping and the indentation after the indicator of a block scalar, in either order. A zero
is no indentation and is left to be refused as part of the line. -/
def blockHeader (c : Cursor) : Chomping × Option Nat × Cursor :=
  match c.head?.bind chompingOf with
  | some ch =>
    let c := c.skip
    match c.head?.bind indentDigit with
    | some n => (ch, some n, c.skip)
    | none => (ch, none, c)
  | none =>
    match c.head?.bind indentDigit with
    | some n =>
      let c := c.skip
      match c.head?.bind chompingOf with
      | some ch => (ch, some n, c.skip)
      | none => (.clip, some n, c)
    | none => (.clip, none, c)

/-- Skips indentation and empty lines before a line of the scalar, and gives the breaks of the empty
lines, the latest first. `indent` is the column of the
scalar, zero while it is not known; `widest` is the furthest column that was met. -/
def blockBreaks (indent : Nat) : Nat → Cursor → Nat → List Char → Option (List Char × Nat × Cursor)
  | 0, c, widest, acc => some (acc, widest, c)
  | fuel + 1, c, widest, acc =>
    let spaces := (c.rest.takeWhile (· == ' ')).length
    let c := c.skip (if indent = 0 then spaces else min spaces (indent - c.column))
    let widest := max widest c.column
    if (indent = 0 ∨ c.column < indent) ∧ c.at? '\t' then none
    else if c.atBreak then
      let (b, c) := c.readBreak
      blockBreaks indent fuel c widest (b.reverseAux acc)
    else some (acc, widest, c)

/-- The lines of a block scalar, the latest character first. `lead` is the break that ended the
last line, `trail` holds the empty lines after it, and `wasBlank` says whether the last line began
with a blank. -/
def blockLines (literal : Bool) (indent : Nat) :
    Nat → Cursor → List Char → List Char → Bool → List Char →
      Option (List Char × List Char × List Char × Cursor)
  | 0, c, lead, trail, _, acc => some (acc, lead, trail, c)
  | fuel + 1, c, lead, trail, wasBlank, acc =>
    if c.column = indent ∧ c.rest ≠ [] then
      let isBlank := c.atGap
      let joint :=
        if !literal ∧ lead = ['\n'] ∧ !wasBlank ∧ !isBlank then
          if trail = [] then [' '] else trail
        else trail ++ lead
      let line := c.rest.takeWhile (!isBreak ·)
      let (b, c) := (c.skipWhile (!isBreak ·)).readBreak
      match blockBreaks indent (fuel + 1) c 0 [] with
      | none => none
      | some (trail, _, c) =>
        blockLines literal indent fuel c b.reverse trail isBlank (line.reverseAux (joint ++ acc))
    else some (acc, lead, trail, c)

/-- A block scalar, from its indicator on, inside a block that is indented by `parent`. -/
def blockScalar (fuel : Nat) (literal : Bool) (parent : Int) (c : Cursor) :
    Option (String × Cursor) := do
  let (chomping, increment, c) := blockHeader c.skip
  let c ← c.finishLine
  let given := match increment with
    | some n => if 0 ≤ parent then parent.toNat + n else n
    | none => 0
  let (trail, widest, c) ← blockBreaks given fuel c 0 []
  let indent := if given = 0 then max (max widest (parent + 1).toNat) 1 else given
  let (text, lead, trail, c) ← blockLines literal indent fuel c [] trail false []
  let text := match chomping with
    | .strip => text
    | .clip => lead ++ text
    | .keep => trail ++ (lead ++ text)
  some (String.ofList text.reverse, c)

end TelemetrySim.Yaml
