import TelemetrySim.Text.Quoted

/-!
Declared names. Templates and instances of all kinds share one flat set of names.
-/

set_option autoImplicit false
set_option relaxedAutoImplicit false

namespace TelemetrySim

inductive EntityKind where
  | clock | source | value | metric
deriving DecidableEq

def EntityKind.label : EntityKind → String
  | clock => "clock"
  | source => "source"
  | value => "value"
  | metric => "metric"

inductive Origin where
  | template | shared
deriving DecidableEq

def Origin.label : Origin → String
  | template => "template"
  | shared => "instance"

/-- What a declared name stands for. -/
structure Entity where
  kind : EntityKind
  origin : Origin
deriving DecidableEq

def Entity.label (e : Entity) : String := e.kind.label ++ " " ++ e.origin.label

/-- A place on the way to where an error was met. -/
structure Frame where
  component : String
  name : String
deriving DecidableEq

def Frame.text (f : Frame) : String := f.component ++ " " ++ Text.quoted f.name

/-- The way to where an error was met, the nearest place first. -/
abbrev Trail := List Frame

def Entity.frame (e : Entity) (name : String) : Frame := ⟨e.label, name⟩

/-- A problem and where it was met. -/
structure Located (π : Type) where
  problem : π
  trail : Trail
deriving DecidableEq

namespace Located

def path {π : Type} (e : Located π) : List String := e.trail.map Frame.text

/-- The message of the problem, with one line for each place. -/
def text {π : Type} (message : π → String) (e : Located π) : String :=
  e.path.foldl (fun s frame ↦ s ++ "\n  in " ++ frame) (message e.problem)

end Located

/-- A name that is declared a second time. -/
structure NameClash where
  name : String
  holder : Entity
  entity : Entity
deriving DecidableEq

def NameClash.message (c : NameClash) : String :=
  "name " ++ Text.quoted c.name ++ " already used by " ++ c.holder.label ++
    ", cannot reuse for " ++ c.entity.label

structure Namespace where
  names : List (String × Entity) := []

namespace Namespace

def lookup (ns : Namespace) (name : String) : Option Entity := ns.names.lookup name

/-- Claims a name for an entity. -/
def register (ns : Namespace) (name : String) (e : Entity) : Except NameClash Namespace :=
  match ns.lookup name with
  | some holder => .error ⟨name, holder, e⟩
  | none => .ok ⟨ns.names ++ [(name, e)]⟩

end Namespace

end TelemetrySim
