import TelemetrySim.Decl.Fields
import TelemetrySim.Decl.Naming
import TelemetrySim.Expansion
import TelemetrySim.Resolution.Document
import TelemetrySim.Toml.Document
import TelemetrySim.Yaml.Document

/-!
From text to configuration: the text is read as a document, the document is checked, expanded and
resolved. The first step that fails decides.
-/

set_option autoImplicit false
set_option relaxedAutoImplicit false

namespace TelemetrySim

/-- The notation of a document. -/
inductive Format where
  | yaml | toml
deriving DecidableEq

def Format.label : Format → String
  | yaml => "YAML"
  | toml => "TOML"

/-- Why there is no configuration. -/
inductive CompileError where
  | unreadable (format : Format) (e : Decode.ReadError)
  | malformed (f : Decl.Flaw)
  | expansion (e : ExpansionError)
  | panicked (p : Panic)
  | unresolved (e : Failure)

namespace CompileError

def ofExpansion : ExpansionFailure → CompileError
  | .refused e => expansion e
  | .panicked p => panicked p

def failureText (e : Failure) : String := "Resolution failed: " ++ e.text Problem.message

def flawText (f : Decl.Flaw) : String := "Invalid configuration: " ++ f.message

def expansionText (e : ExpansionError) : String := "Expansion failed: " ++ e.message

def message : CompileError → String
  | unreadable format e => "Invalid " ++ format.label ++ ": " ++ e.message
  | malformed f => flawText f
  | expansion e => expansionText e
  | panicked p => p.message
  | unresolved e => failureText e

end CompileError

namespace Decl.Document

/-- Reads a document. -/
def read : Format → String → Except Decode.ReadError Document
  | .yaml, text => Yaml.read Document.decode text
  | .toml, text => Toml.read Document.decode text

/-- Reads a document and checks its names. -/
def parse (format : Format) (text : String) : Except CompileError Document := do
  let d ← (read format text).mapError (.unreadable format)
  d.check.mapError .malformed
  pure d

/-- Resolves a document as it stands. -/
def resolved (d : Document) : Except CompileError Config :=
  (Config.resolve d).mapError .unresolved

/-- Expands and resolves a document. -/
def compile (d : Document) : Except CompileError Config := do
  let d ← d.expand.mapError .ofExpansion
  d.resolved

end Decl.Document

/-- Compiles a text. -/
def Config.ofText (format : Format) (text : String) : Except CompileError Config := do
  let d ← Decl.Document.parse format text
  d.compile

end TelemetrySim
