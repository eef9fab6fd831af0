import TelemetrySim.Config.Basic

/-!
Readings in the text format that Prometheus scrapes. The readings of one name stand together behind
one header of two lines, where the name first appears.
-/

set_option autoImplicit false
set_option relaxedAutoImplicit false

namespace TelemetrySim.Exposition

/-- A metric and its reading. -/
structure Sample where
  name : String
  kind : Config.MetricKind
  description : String
  attributes : Config.Attributes
  reading : Int64
deriving DecidableEq

/-- Writes a text in place of a character, wherever it occurs. -/
def replaceChar (c : Char) (written : String) (s : String) : String :=
  String.ofList (s.toList.flatMap fun d ↦ if d = c then written.toList else [d])

/-- Backslashes and line ends are escaped in a description. The backslashes come first, so those
that are written for line ends stay as they are. -/
def escapeHelp (s : String) : String := replaceChar '\n' "\\n" (replaceChar '\\' "\\\\" s)

/-- Backslashes, quotes and line ends are escaped in the value of a label. -/
def escapeLabel (s : String) : String :=
  replaceChar '\n' "\\n" (replaceChar '"' "\\\"" (replaceChar '\\' "\\\\" s))

def label (key value : String) : String := key ++ "=\"" ++ escapeLabel value ++ "\""

/-- The labels in braces; nothing if there are none. -/
def labels (attributes : Config.Attributes) : String :=
  if attributes = [] then ""
  else "\x7b" ++ String.intercalate "," (attributes.map fun (k, v) ↦ label k v) ++ "\x7d"

def helpLine (name description : String) : String :=
  "# HELP " ++ name ++ " " ++ escapeHelp description ++ "\n"

def typeLine (name : String) (kind : Config.MetricKind) : String :=
  "# TYPE " ++ name ++ " " ++ kind.label ++ "\n"

/-- The line of a sample under the name of its family. -/
def Sample.line (name : String) (s : Sample) : String :=
  name ++ labels s.attributes ++ " " ++ toString s.reading.toInt ++ "\n"

/-- The samples of one name. The first one gives the header. -/
structure Family where
  name : String
  first : Sample
  rest : List Sample
deriving DecidableEq

def Family.samples (f : Family) : List Sample := f.first :: f.rest

def Family.text (f : Family) : String :=
  helpLine f.name f.first.description ++ typeLine f.name f.first.kind ++
    String.join (f.samples.map (Sample.line f.name))

/-- Adds a sample to the family of its name, which is a new one at the end if there is none. -/
def addSample (s : Sample) : List Family → List Family
  | [] => [⟨s.name, s, []⟩]
  | f :: rest =>
    if f.name = s.name then { f with rest := f.rest ++ [s] } :: rest else f :: addSample s rest

/-- The samples in families, in the order in which the names first appear. -/
def families (samples : List Sample) : List Family :=
  samples.foldl (fun fs s ↦ addSample s fs) []

def text (samples : List Sample) : String :=
  String.join ((families samples).map Family.text)

end TelemetrySim.Exposition
