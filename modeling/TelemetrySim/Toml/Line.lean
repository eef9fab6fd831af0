import TelemetrySim.Toml.Scalar

/-!
The lines of a TOML document: assignments, and headers that say which table the assignments behind
them go to. A key is a path of names. Lists may run over several lines, tables in braces may not.
-/

set_option autoImplicit false
set_option relaxedAutoImplicit false

namespace TelemetrySim.Toml

/-- A value as it is written. Tables in braces keep their assignments. -/
inductive Value where
  | scalar (s : Scalar)
  | text (s : String)
  | array (items : List Value)
  | inline (assignments : List (List String × Value))

inductive Line where
  | assign (path : List String) (v : Value)
  | header (path : List String)
  | arrayHeader (path : List String)

/-- Containers and paths of this depth or more are refused. -/
def depthLimit : Nat := 80

def isBareChar (c : Char) : Bool := c.isAlphanum || c == '-' || c == '_'

def dropGaps (cs : List Char) : List Char := cs.dropWhile isGap

/-- One name of a path. -/
def keyPart (fuel : Nat) (cs : List Char) : Option (String × List Char) :=
  match cs.takeWhile isBareChar with
  | [] => shortString fuel cs
  | name => some (String.ofList name, cs.dropWhile isBareChar)

/-- The names of a path, with points between them and blanks around them. -/
def keyPath : Nat → List Char → Option (List String × List Char)
  | 0, _ => none
  | fuel + 1, cs => do
    let (name, r) ← keyPart (fuel + 1) (dropGaps cs)
    match dropGaps r with
    | '.' :: r => do
      let (names, r) ← keyPath fuel r
      some (name :: names, r)
    | r => some ([name], r)

def path (fuel : Nat) (cs : List Char) : Option (List String × List Char) := do
  let (names, r) ← keyPath fuel cs
  if names.length < depthLimit then some (names, r) else none

/-- The text behind a comment, which ends at the end of the line. -/
def dropComment : List Char → Option (List Char)
  | '#' :: r =>
    let rest := r.dropWhile isPrintable
    if rest = [] ∨ (lineBreak? rest).isSome then some rest else none
  | cs => some cs

/-- The text behind blanks, comments and line ends. -/
def dropFiller : Nat → List Char → Option (List Char)
  | 0, cs => some cs
  | fuel + 1, cs => do
    let cs ← dropComment (dropGaps cs)
    match lineBreak? cs with
    | some r => dropFiller fuel r
    | none => some cs

mutual

/-- A value at a depth of containers. -/
def value : Nat → Nat → List Char → Option (Value × List Char)
  | 0, _, _ => none
  | fuel + 1, depth, cs =>
    match cs with
    | '[' :: r => if depth + 1 < depthLimit then items fuel (depth + 1) r else none
    | '\x7b' :: r =>
      if depth + 1 < depthLimit then
        match dropGaps r with
        | '\x7d' :: r => some (.inline [], r)
        | r => (assignments fuel (depth + 1) r).map fun (l, r) ↦ (.inline l, r)
      else none
    | c :: _ =>
      if c = '"' ∨ c = '\'' then (string (fuel + 1) cs).map fun (s, r) ↦ (.text s, r)
      else (scalar cs).map fun (s, r) ↦ (.scalar s, r)
    | [] => none

/-- The items of a list behind its bracket. -/
def items : Nat → Nat → List Char → Option (Value × List Char)
  | 0, _, _ => none
  | fuel + 1, depth, cs =>
    (itemsFrom fuel depth cs).map fun (l, r) ↦ (.array l, r)

/-- Items, each with a comma behind it unless it is the last. -/
def itemsFrom : Nat → Nat → List Char → Option (List Value × List Char)
  | 0, _, _ => none
  | fuel + 1, depth, cs => do
    let cs ← dropFiller (fuel + 1) cs
    match cs with
    | ']' :: r => some ([], r)
    | _ => do
      let (v, r) ← value fuel depth cs
      let r ← dropFiller (fuel + 1) r
      match r with
      | ',' :: r => (itemsFrom fuel depth r).map fun (l, r) ↦ (v :: l, r)
      | ']' :: r => some ([v], r)
      | _ => none

/-- Assignments of a table in braces, with commas between them. -/
def assignments : Nat → Nat → List Char → Option (List (List String × Value) × List Char)
  | 0, _, _ => none
  | fuel + 1, depth, cs => do
    let (p, r) ← path (fuel + 1) cs
    let r ← expect '=' r
    let (v, r) ← value fuel depth (dropGaps r)
    match dropGaps r with
    | ',' :: r => (assignments fuel depth r).map fun (l, r) ↦ ((p, v) :: l, r)
    | '\x7d' :: r => some ([(p, v)], r)
    | _ => none

end

/-- The end of a line behind its content. -/
def endLine (cs : List Char) : Option (List Char) := do
  let cs ← dropComment (dropGaps cs)
  if cs = [] then some [] else lineBreak? cs

/-- A line that starts at a character other than a blank. -/
def line (fuel : Nat) (cs : List Char) : Option (Line × List Char) :=
  match cs with
  | '[' :: '[' :: r => do
    let (p, r) ← path fuel r
    let r ← expect ']' r
    let r ← expect ']' r
    let r ← endLine r
    some (.arrayHeader p, r)
  | '[' :: r => do
    let (p, r) ← path fuel r
    let r ← expect ']' r
    let r ← endLine r
    some (.header p, r)
  | _ => do
    let (p, r) ← path fuel cs
    let r ← expect '=' r
    let (v, r) ← value fuel 0 (dropGaps r)
    let r ← endLine r
    some (.assign p v, r)

def linesFrom (length : Nat) : Nat → List Char → Option (List Line)
  | 0, _ => none
  | fuel + 1, cs => do
    let cs ← dropFiller (length + 1) cs
    if cs = [] then some []
    else do
      let (l, r) ← line (2 * length + 2) cs
      (linesFrom length fuel r).map (l :: ·)

/-- The lines of a text. -/
def lines (text : String) : Option (List Line) :=
  let cs := match text.toList with
    | c :: r => if c.toNat = 0xfeff then r else c :: r
    | [] => []
  linesFrom cs.length (cs.length + 1) cs

end TelemetrySim.Toml
