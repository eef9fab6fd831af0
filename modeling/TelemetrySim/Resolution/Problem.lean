import TelemetrySim.Resolution.Entity

/-!
What can be wrong with a document that is well formed, and the wording of it.
-/

set_option autoImplicit false
set_option relaxedAutoImplicit false

namespace TelemetrySim

inductive Problem where
  | nameClash (c : NameClash)
  /-- A declaration that refers to a shared object. -/
  | sharedDeclaration (name : String)
  /-- A reference to nothing; if the name is declared as something else, that is said. -/
  | notFound (wanted : Entity) (name : String) (actual : Option Entity)
  /-- Templates that are based on each other. -/
  | cycle (kind : EntityKind) (names : List String)
  /-- A reference to a shared object that also changes it. -/
  | overridden (name : String)
  | clockTypeRequired
  | clockIntervalRequired
  | clockIntervalZero
  | sourceTypeRequired
  | sourceBounds (min max : Int64)
  | sourceRequired
  | clockRequired
  | metricTypeRequired
  | invalidMetricType (text : String)
  | descriptionRequired
  | valueRequired
  | invalidAttribute (key : String)
  | duplicateSeries (previous : Nat)
  | twoExporters
  | invalidPort (port : Int64)
  | invalidPath (path : String)
  | invalidTransport (text : String)
  | emptyHost
  | exportIntervalZero
  | invalidFormat (text : String)
deriving DecidableEq

def Problem.message : Problem → String
  | nameClash c => c.message
  | sharedDeclaration name =>
    "declaration cannot reference instance " ++ Text.quoted name ++ " (use template)"
  | notFound wanted name actual =>
    wanted.label ++ " " ++ Text.quoted name ++ " not found" ++
      match actual with
      | some e => " (" ++ Text.quoted name ++ " is a " ++ e.label ++ ")"
      | none => ""
  | cycle kind names =>
    "cycle detected between " ++ (Entity.mk kind .template).label ++ "s: " ++
      String.intercalate ", " names
  | overridden name => "cannot override instance " ++ Text.quoted name
  | clockTypeRequired => "clock type required"
  | clockIntervalRequired => "clock interval required"
  | clockIntervalZero => "clock interval must be greater than 0"
  | sourceTypeRequired => "source type required"
  | sourceBounds min max =>
    "source min " ++ toString min.toInt ++ " exceeds max " ++ toString max.toInt
  | sourceRequired => "source required"
  | clockRequired => "clock required (either on value or source)"
  | metricTypeRequired => "type required"
  | invalidMetricType text =>
    "invalid type " ++ Text.quoted text ++ " (must be counter or gauge)"
  | descriptionRequired => "description required"
  | valueRequired => "value required"
  | invalidAttribute key => "invalid attribute name " ++ Text.quoted key
  | duplicateSeries previous =>
    "duplicate series: metric at index " ++ toString previous ++
      " has the same name and attributes"
  | twoExporters => "only one exporter can be enabled at a time (prometheus or otel)"
  | invalidPort port => "invalid port " ++ toString port.toInt ++ " (must be 1-65535)"
  | invalidPath path => "invalid path " ++ Text.quoted path ++ " (must start with /)"
  | invalidTransport text =>
    "invalid transport " ++ Text.quoted text ++ " (must be grpc or http)"
  | emptyHost => "host cannot be empty"
  | exportIntervalZero => "interval must be greater than 0"
  | invalidFormat text =>
    "invalid format " ++ Text.quoted text ++ " (must be prometheus or otel)"

/-- Why a document cannot be resolved, and where. -/
abbrev Failure := Located Problem

/-- The outcome of resolving a part of a document. -/
abbrev Resolved (α : Type) := Except Failure α

/-- A problem that is met at the end of a trail. -/
def fails {α : Type} (trail : Trail) (p : Problem) : Resolved α := .error ⟨p, trail⟩

def orFails {α : Type} (trail : Trail) (p : Problem) : Option α → Resolved α
  | some a => .ok a
  | none => fails trail p

end TelemetrySim
