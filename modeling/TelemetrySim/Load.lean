import TelemetrySim.Compile

/-!
Configurations in files. The ending of a file's name gives its notation.
-/

set_option autoImplicit false
set_option relaxedAutoImplicit false

namespace TelemetrySim

/-- The last part of a path that names something; a path to `..` or to nothing has none. -/
def fileName (path : List Char) : Option (List Char) :=
  match ((path.splitOn '/').filter fun part ↦ part ≠ [] ∧ part ≠ ['.']).getLast? with
  | none => none
  | some part => if part = ['.', '.'] then none else some part

/-- What follows the last point of a name, unless the point stands in front. -/
def ending (name : List Char) : Option (List Char) :=
  let back := name.reverse
  let suffix := (back.takeWhile (· ≠ '.')).reverse
  match back.dropWhile (· ≠ '.') with
  | [] => none
  | [_] => none
  | _ => some suffix

/-- TOML is known by its ending, in letters of any case; all else is YAML. -/
def Format.ofPath (path : String) : Format :=
  match (fileName path.toList).bind ending with
  | some suffix => if suffix.map Char.toLower = "toml".toList then .toml else .yaml
  | none => .yaml

/-- What is found at a path. -/
inductive FileContent where
  | missing
  | directory
  | bytes (data : ByteArray)
  /-- It cannot be read, and the system says why. -/
  | failed (reason : String)

/-- Why a file gives no configuration. -/
inductive LoadError where
  | unreadable (path reason : String)
  | uncompiled (e : CompileError)

/-- The text of a file, or the reason why there is none. -/
def FileContent.text : FileContent → Except String String
  | missing => .error "No such file or directory (os error 2)"
  | directory => .error "Is a directory (os error 21)"
  | bytes data =>
    match String.fromUTF8? data with
    | some text => .ok text
    | none => .error "stream did not contain valid UTF-8"
  | failed reason => .error reason

def LoadError.message : LoadError → String
  | unreadable path reason => "Failed to read " ++ path ++ ": " ++ reason
  | uncompiled e => e.message

/-- Compiles what is found at a path. -/
def Config.load (path : String) (content : FileContent) : Except LoadError Config := do
  let text ← content.text.mapError (.unreadable path)
  (Config.ofText (Format.ofPath path) text).mapError .uncompiled

end TelemetrySim
