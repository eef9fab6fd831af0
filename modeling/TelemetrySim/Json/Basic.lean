import TelemetrySim.Number.Binary64
import TelemetrySim.Text.Quoted

/-!
JSON values, with objects as lists of fields so that the order of fields is part of the value, and
their two written forms: compact, and indented by two spaces.
-/

set_option autoImplicit false
set_option relaxedAutoImplicit false

namespace TelemetrySim

inductive Json where
  | null
  | bool (b : Bool)
  | int (i : Int)
  | real (x : Number.Binary64)
  | str (s : String)
  | arr (items : List Json)
  | obj (fields : List (String × Json))

namespace Json

/-- Four hexadecimal digits of a control character. -/
def controlEscape (c : Char) : List Char :=
  let ds := Text.hexDigits c.toNat
  '\\' :: 'u' :: (List.replicate (4 - ds.length) '0' ++ ds)

def escapedChar (c : Char) : List Char :=
  if c = '"' then ['\\', '"']
  else if c = '\\' then ['\\', '\\']
  else if c = '\n' then ['\\', 'n']
  else if c = '\r' then ['\\', 'r']
  else if c = '\t' then ['\\', 't']
  else if c.toNat = 8 then ['\\', 'b']
  else if c.toNat = 12 then ['\\', 'f']
  else if c.toNat < 32 then controlEscape c
  else [c]

def stringText (s : String) : String :=
  String.ofList ('"' :: s.toList.flatMap escapedChar ++ ['"'])

/-- Text of a value without parts. -/
def leafText : Json → String
  | null => "null"
  | bool b => if b then "true" else "false"
  | int i => toString i
  | real x => x.jsonText
  | str s => stringText s
  | arr _ => "[]"
  | obj _ => "\x7b\x7d"

mutual

/-- The value on one line without blanks. -/
def compact : Json → String
  | arr items => "[" ++ compactItems items ++ "]"
  | obj fields => "\x7b" ++ compactFields fields ++ "\x7d"
  | leaf => leafText leaf

def compactItems : List Json → String
  | [] => ""
  | [x] => compact x
  | x :: y :: rest => compact x ++ "," ++ compactItems (y :: rest)

def compactFields : List (String × Json) → String
  | [] => ""
  | [(k, x)] => stringText k ++ ":" ++ compact x
  | (k, x) :: y :: rest => stringText k ++ ":" ++ compact x ++ "," ++ compactFields (y :: rest)

end

def newline (depth : Nat) : String := "\n" ++ String.ofList (List.replicate (2 * depth) ' ')

mutual

/-- The value over several lines; an empty list or object stays on one. -/
def indented (depth : Nat) : Json → String
  | arr (x :: xs) => "[" ++ indentedItems (depth + 1) (x :: xs) ++ newline depth ++ "]"
  | obj (x :: xs) => "\x7b" ++ indentedFields (depth + 1) (x :: xs) ++ newline depth ++ "\x7d"
  | leaf => leafText leaf

def indentedItems (depth : Nat) : List Json → String
  | [] => ""
  | [x] => newline depth ++ indented depth x
  | x :: y :: rest =>
    newline depth ++ indented depth x ++ "," ++ indentedItems depth (y :: rest)

def indentedFields (depth : Nat) : List (String × Json) → String
  | [] => ""
  | [(k, x)] => newline depth ++ stringText k ++ ": " ++ indented depth x
  | (k, x) :: y :: rest =>
    newline depth ++ stringText k ++ ": " ++ indented depth x ++ "," ++
      indentedFields depth (y :: rest)

end

def pretty (j : Json) : String := indented 0 j

/-- A field that is left out when there is nothing to say. -/
def optional {α : Type} (key : String) (f : α → Json) : Option α → List (String × Json)
  | none => []
  | some a => [(key, f a)]

end Json

end TelemetrySim
