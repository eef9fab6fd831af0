import TelemetrySim.Yaml.Scalar
import TelemetrySim.Yaml.Token

/-!
Tokens from text. What makes a mapping is only seen at the colon behind its first key, so a token
that may turn out to be a key is remembered with its place, and the key and block tokens are put in
front of it later. Such a key lies on one line and is at most 1024 characters long.

A text that stops making sense yields the tokens in front of that place. A token is in front of it
if it cannot be a key any more when the place is reached.
-/

set_option autoImplicit false
set_option relaxedAutoImplicit false

namespace TelemetrySim.Yaml

/-- A token that may turn out to be a key. -/
structure Candidate where
  /-- The number of the token. -/
  number : Nat
  index : Nat
  line : Nat
  column : Nat
  /-- Whether it has to be a key, being the first on its line in a block. -/
  required : Bool

structure Scanner where
  cursor : Cursor
  /-- The length of the text. -/
  length : Nat
  /-- The tokens that have been handed on, the last one first. -/
  handed : List Token := []
  /-- How many tokens have been handed on. -/
  taken : Nat := 0
  /-- The tokens that wait to be handed on. -/
  waiting : Array Token := #[]
  flow : Nat := 0
  indent : Int := -1
  /-- The indentations of the enclosing blocks. -/
  outer : List Int := []
  keyAllowed : Bool := true
  /-- The candidate of each bracket level, the innermost first. -/
  candidates : List (Option Candidate) := [none]
  finished : Bool := false

namespace Scanner

def push (s : Scanner) (t : Token) : Scanner := { s with waiting := s.waiting.push t }

/-- The number of the next token. -/
def next (s : Scanner) : Nat := s.taken + s.waiting.size

/-- Adds a token in front of the waiting token of a number. -/
def insertAt (s : Scanner) (n : Nat) (t : Token) : Scanner :=
  { s with waiting := s.waiting.insertIdxIfInBounds (n - s.taken) t }

/-- Adds a token that is `n` characters long. -/
def pushOver (s : Scanner) (n : Nat) (t : Token) : Scanner :=
  { s.push t with cursor := s.cursor.skip n }

/-- A candidate that has been left behind. -/
def isStale (s : Scanner) (k : Candidate) : Bool :=
  k.line < s.cursor.line || k.index + 1024 < s.cursor.index

/-- Forgets the candidates that have been left behind; fails if one of them had to be a key. -/
def dropStale (s : Scanner) : Option Scanner :=
  if s.candidates.any fun k ↦ k.any fun k ↦ s.isStale k && k.required then none
  else some { s with candidates := s.candidates.map fun k ↦ k.filter fun k ↦ !s.isStale k }

/-- Forgets the candidate of the current level; fails if it had to be a key. -/
def dropCandidate (s : Scanner) : Option Scanner :=
  match s.candidates with
  | [] => some s
  | k :: rest =>
    if k.any (·.required) then none else some { s with candidates := none :: rest }

/-- Remembers the next token as a candidate, where a key may stand. -/
def saveCandidate (s : Scanner) : Option Scanner :=
  if s.keyAllowed then do
    let s ← s.dropCandidate
    let k : Candidate := {
      number := s.next
      index := s.cursor.index
      line := s.cursor.line
      column := s.cursor.column
      required := s.flow == 0 && s.indent == s.cursor.column }
    some { s with candidates := some k :: s.candidates.tail }
  else some s

/-- Opens a block at a column that is further in, in front of token `n`. -/
def openBlock (s : Scanner) (column : Nat) (n : Nat) (t : Token) : Scanner :=
  if s.flow = 0 ∧ s.indent < column then
    { s.insertAt n t with indent := column, outer := s.indent :: s.outer }
  else s

/-- Leaves the blocks that are further in than a column: how many they are, and the indentations
that remain. -/
def unwind (column : Int) : Int → List Int → Nat × Int × List Int
  | indent, [] => if column < indent then (1, -1, []) else (0, indent, [])
  | indent, i :: rest =>
    if column < indent then
      let (n, indent, outer) := unwind column i rest
      (n + 1, indent, outer)
    else (0, indent, i :: rest)

/-- Closes the blocks that are further in than the column. -/
def closeBlocks (s : Scanner) (column : Int) : Scanner :=
  if s.flow ≠ 0 then s
  else
    let (n, indent, outer) := unwind column s.indent s.outer
    { s with
      indent := indent
      outer := outer
      waiting := s.waiting ++ List.replicate n Token.blockEnd }

/-- Skips blanks, comments and ends of lines. A tab is a blank inside brackets and where no key may
stand. -/
def skipToToken : Nat → Scanner → Scanner
  | 0, s => s
  | fuel + 1, s =>
    let c := s.cursor
    let c := if c.column == 0 && c.at? (Char.ofNat 0xfeff) then c.skip else c
    let tabs := s.flow ≠ 0 || !s.keyAllowed
    let c := c.skipWhile fun x ↦ x == ' ' || (tabs && x == '\t')
    let c := if c.at? '#' then c.skipWhile (!isBreak ·) else c
    if c.atBreak then
      skipToToken fuel
        { s with cursor := c.readBreak.2, keyAllowed := s.keyAllowed || s.flow == 0 }
    else { s with cursor := c }

/-! ### Directives, anchors and tags -/

def spanWord (c : Cursor) : String × Cursor :=
  (String.ofList (c.rest.takeWhile isWordChar), c.skipWhile isWordChar)

/-- A number of at most nine digits. -/
def versionNumber (c : Cursor) : Option (Nat × Cursor) :=
  let ds := c.rest.takeWhile Char.isDigit
  if ds = [] ∨ 9 < ds.length then none
  else some (Number.digitsValue ds, c.skip ds.length)

/-- A tag handle: `!`, `!!` or a word between two of them. -/
def tagHandle (c : Cursor) : Option (List Char × Cursor) :=
  if c.at? '!' then
    let c := c.skip
    let word := c.rest.takeWhile isWordChar
    let c := c.skip word.length
    if c.at? '!' then some ('!' :: word ++ ['!'], c.skip) else some ('!' :: word, c)
  else none

def isUriChar (verbatim : Bool) (c : Char) : Bool :=
  isWordChar c || ";/?:@&=+$.!~*'()%".toList.contains c || (verbatim && ",[]".toList.contains c)

/-- The bytes of an escaped character: percent signs with two hexadecimal digits each. -/
def uriBytes : Nat → List Char → Option (List UInt8 × List Char)
  | 0, cs => some ([], cs)
  | n + 1, '%' :: a :: b :: r => do
    let v ← Number.readNat 16 [a, b]
    let (bytes, r) ← uriBytes n r
    some (UInt8.ofNat v :: bytes, r)
  | _, _ => none

/-- The number of bytes of a character that starts with the byte. -/
def utf8Length (v : Nat) : Option Nat :=
  if v < 0x80 then some 1
  else if 0xc0 ≤ v ∧ v < 0xe0 then some 2
  else if 0xe0 ≤ v ∧ v < 0xf0 then some 3
  else if 0xf0 ≤ v ∧ v < 0xf8 then some 4
  else none

/-- A character that is written with percent signs. -/
def uriEscape (cs : List Char) : Option (Char × List Char) :=
  match cs with
  | '%' :: a :: b :: _ => do
    let v ← Number.readNat 16 [a, b]
    let n ← utf8Length v
    let (bytes, r) ← uriBytes n cs
    let s ← String.fromUTF8? ⟨bytes.toArray⟩
    let x ← s.toList.head?
    some (x, r)
  | _ => none

/-- The characters of a tag. -/
def uriChars (verbatim : Bool) : Nat → Cursor → Option (List Char × Cursor)
  | 0, c => some ([], c)
  | fuel + 1, c =>
    match c.rest with
    | [] => some ([], c)
    | x :: _ =>
      if x = '%' then do
        let (y, r) ← uriEscape c.rest
        let (w, c) ← uriChars verbatim fuel (c.skip (c.rest.length - r.length))
        some (y :: w, c)
      else if isUriChar verbatim x then
        (uriChars verbatim fuel c.skip).map fun (w, c) ↦ (x :: w, c)
      else some ([], c)

def directive (s : Scanner) : Option Scanner := do
  let (name, c) := spanWord s.cursor.skip
  if name = "" ∨ !c.gapAfter 0 then none
  else if name = "YAML" then
    let (major, c) ← versionNumber (c.skipWhile isGap)
    if c.at? '.' then
      let (minor, c) ← versionNumber c.skip
      let c ← c.finishLine
      some { s.push (.versionDirective major minor) with cursor := c }
    else none
  else if name = "TAG" then
    let (handle, c) ← tagHandle (c.skipWhile isGap)
    if (handle ≠ ['!'] ∧ (handle.length < 2 ∨ handle.getLast? ≠ some '!')) ∨ !c.atGap then none
    else
      let (start, c) ← uriChars true s.length (c.skipWhile isGap)
      if start = [] ∨ !c.gapAfter 0 then none
      else
        let c ← c.finishLine
        let t := Token.tagDirective (String.ofList handle) (String.ofList start)
        some { s.push t with cursor := c }
  else none

/-- An anchor or alias, whose name must not run into other text. -/
def nameToken (s : Scanner) (make : String → Token) : Option Scanner :=
  let (name, c) := spanWord s.cursor.skip
  let ends := c.gapAfter 0 || c.head?.any fun x ↦ "?:,]\x7d%@`".toList.contains x
  if name = "" ∨ !ends then none else some { s.push (make name) with cursor := c }

def tagToken (s : Scanner) : Option Scanner := do
  let c := s.cursor
  let (handle, suffix, c) ←
    if c.rest[1]? = some '<' then do
      let (suffix, c) ← uriChars true s.length (c.skip 2)
      if suffix = [] ∨ !c.at? '>' then none else some ([], suffix, c.skip)
    else do
      let (handle, c) ← tagHandle c
      if 1 < handle.length ∧ handle.getLast? = some '!' then do
        let (suffix, c) ← uriChars false s.length c
        if suffix = [] then none else some (handle, suffix, c)
      else do
        let (more, c) ← uriChars false s.length c
        let suffix := handle.tail ++ more
        if suffix = [] then some ([], ['!'], c) else some (['!'], suffix, c)
  if c.gapAfter 0 || (s.flow ≠ 0 && c.at? ',') then
    some { s.push (.tag (String.ofList handle) (String.ofList suffix)) with cursor := c }
  else none

/-! ### One token -/

/-- The end of the text counts as the end of a line. -/
def finishText (s : Scanner) : Option Scanner := do
  let c := s.cursor
  let s := { s with
    cursor := if c.column = 0 then c else { c with column := 0, line := c.line + 1 } }
  let s ← (s.closeBlocks (-1)).dropCandidate
  some { s.push .streamEnd with keyAllowed := false, finished := true }

def documentIndicator (s : Scanner) (t : Token) : Option Scanner := do
  let s ← (s.closeBlocks (-1)).dropCandidate
  some { s.pushOver 3 t with keyAllowed := false }

def flowStart (s : Scanner) (t : Token) : Option Scanner := do
  let s ← s.saveCandidate
  some { s.pushOver 1 t with
    flow := s.flow + 1, keyAllowed := true, candidates := none :: s.candidates }

def flowEnd (s : Scanner) (t : Token) : Option Scanner := do
  let s ← s.dropCandidate
  let s := if s.flow = 0 then s else { s with flow := s.flow - 1, candidates := s.candidates.tail }
  some { s.pushOver 1 t with keyAllowed := false }

def flowEntry (s : Scanner) : Option Scanner := do
  let s ← s.dropCandidate
  some { s.pushOver 1 .flowEntry with keyAllowed := true }

def blockEntry (s : Scanner) : Option Scanner :=
  if s.flow = 0 ∧ !s.keyAllowed then none
  else do
    let s := s.openBlock s.cursor.column s.next .blockSequenceStart
    let s ← s.dropCandidate
    some { s.pushOver 1 .blockEntry with keyAllowed := true }

def keyToken (s : Scanner) : Option Scanner :=
  if s.flow = 0 ∧ !s.keyAllowed then none
  else do
    let s := s.openBlock s.cursor.column s.next .blockMappingStart
    let s ← s.dropCandidate
    some { s.pushOver 1 .key with keyAllowed := s.flow == 0 }

/-- A colon makes the candidate of its level a key. -/
def valueToken (s : Scanner) : Option Scanner :=
  match s.candidates with
  | some k :: rest =>
    let s := (s.insertAt k.number .key).openBlock k.column k.number .blockMappingStart
    some { s.pushOver 1 .value with keyAllowed := false, candidates := none :: rest }
  | _ =>
    if s.flow = 0 then
      if s.keyAllowed then
        let s := s.openBlock s.cursor.column s.next .blockMappingStart
        some { s.pushOver 1 .value with keyAllowed := true }
      else none
    else some { s.pushOver 1 .value with keyAllowed := false }

def named (s : Scanner) (make : String → Token) : Option Scanner := do
  let s ← s.saveCandidate
  nameToken { s with keyAllowed := false } make

def tagged (s : Scanner) : Option Scanner := do
  let s ← s.saveCandidate
  tagToken { s with keyAllowed := false }

def block (s : Scanner) (literal : Bool) : Option Scanner := do
  let s ← s.dropCandidate
  let (text, c) ← blockScalar (s.length + 1) literal s.indent s.cursor
  some { s.push (.scalar text (if literal then .literal else .folded)) with
    cursor := c, keyAllowed := true }

def quoted (s : Scanner) (single : Bool) : Option Scanner := do
  let s ← s.saveCandidate
  let (text, c) ← quotedScalar (s.length + 1) single s.cursor
  some { s.push (.scalar text .quoted) with cursor := c, keyAllowed := false }

def plain (s : Scanner) : Option Scanner := do
  let s ← s.saveCandidate
  let (text, ended, c) ← plainScalar (s.length + 1) (s.flow ≠ 0) (s.indent + 1) s.cursor
  some { s.push (.scalar text .plain) with cursor := c, keyAllowed := ended }

/-- Whether a plain scalar may start here. -/
def plainStarts (s : Scanner) (x : Char) : Bool :=
  let next := s.cursor.rest[1]?
  let gapNext := s.cursor.gapAfter 1
  if x == '-' then !(next.any isGap)
  else if x == '?' || x == ':' then s.flow == 0 && !gapNext
  else !(",[]\x7b\x7d#&*!|>'\"%@`".toList.contains x || isGapOrBreak x)

/-- Reads one token. -/
def fetch (s : Scanner) : Option Scanner := do
  let s ← (skipToToken (s.length + 1) s).dropStale
  let s := s.closeBlocks s.cursor.column
  let c := s.cursor
  match c.rest with
  | [] => s.finishText
  | x :: _ =>
    let gapNext := c.gapAfter 1
    if c.column == 0 && x == '%' then
      let s ← (s.closeBlocks (-1)).dropCandidate
      directive { s with keyAllowed := false }
    else if c.atIndicator '-' then s.documentIndicator .documentStart
    else if c.atIndicator '.' then s.documentIndicator .documentEnd
    else if x == '[' then s.flowStart .flowSequenceStart
    else if x == '\x7b' then s.flowStart .flowMappingStart
    else if x == ']' then s.flowEnd .flowSequenceEnd
    else if x == '\x7d' then s.flowEnd .flowMappingEnd
    else if x == ',' then s.flowEntry
    else if x == '-' && gapNext then s.blockEntry
    else if x == '?' && (s.flow ≠ 0 || gapNext) then s.keyToken
    else if x == ':' && (s.flow ≠ 0 || gapNext) then s.valueToken
    else if x == '*' then s.named .alias
    else if x == '&' then s.named .anchor
    else if x == '!' then s.tagged
    else if x == '|' && s.flow == 0 then s.block true
    else if x == '>' && s.flow == 0 then s.block false
    else if x == '\'' then s.quoted true
    else if x == '"' then s.quoted false
    else if s.plainStarts x then s.plain
    else none

/-- Whether the token of a number may still turn out to be a key. -/
def mayBeKey (s : Scanner) (n : Nat) : Bool := s.candidates.any fun k ↦ k.any fun k ↦ k.number == n

/-- Hands on tokens until the text ends or stops making sense. -/
def run : Nat → Scanner → List Token
  | 0, s => s.handed.reverse
  | fuel + 1, s =>
    match s.waiting[0]? with
    | none =>
      if s.finished then s.handed.reverse
      else
        match s.fetch with
        | none => s.handed.reverse
        | some s => run fuel s
    | some t =>
      match s.dropStale with
      | none => s.handed.reverse
      | some s =>
        if s.mayBeKey s.taken then
          match s.fetch with
          | none => s.handed.reverse
          | some s => run fuel s
        else
          run fuel { s with
            handed := t :: s.handed, taken := s.taken + 1, waiting := s.waiting.extract 1 }

end Scanner

/-- The tokens of a text. The last one is the end of the stream if the whole text makes sense up to
there. A text with a character that may not occur has none. -/
def tokens (text : String) : List Token :=
  let cs := match text.toList with
    | c :: rest => if c.toNat = 0xfeff then rest else c :: rest
    | [] => []
  if cs.all isAllowed then
    Scanner.run (8 * (cs.length + 2)) { cursor := { rest := cs }, length := cs.length }
  else []

end TelemetrySim.Yaml
