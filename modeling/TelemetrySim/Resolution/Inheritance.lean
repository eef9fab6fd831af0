import TelemetrySim.Assoc
import TelemetrySim.Decl.Basic
import TelemetrySim.Resolution.Problem

/-!
Resolving the declarations of one kind. Templates may be based on templates of their list in any
order: passes over the list resolve those whose base is there, until none is left or a pass gets
nowhere. Instances are based on templates that are all there.
-/

set_option autoImplicit false
set_option relaxedAutoImplicit false

namespace TelemetrySim

/-- Declarations by what resolving them by name needs. -/
class Declared (δ : Type) where
  name : δ → String
  /-- The template that it is based on. -/
  base : δ → Option String
  /-- The shared object that it wrongly refers to. -/
  shared : δ → Option String

instance : Declared Decl.Clock where
  name c := c.name.getD ""
  base c := c.templateName
  shared c := c.instanceName

instance : Declared Decl.Source where
  name s := s.name.getD ""
  base s := s.templateName
  shared s := s.instanceName

instance : Declared Decl.Value where
  name v := v.name.getD ""
  base v := v.templateName
  shared v := v.instanceName

instance : Declared Decl.MetricTemplate where
  name m := m.name.getD ""
  base m := m.templateName
  shared _ := none

namespace Namespace

/-- The problem that a name is not declared as what is wanted. -/
def missing (ns : Namespace) (wanted : Entity) (name : String) : Problem :=
  .notFound wanted name ((ns.lookup name).filter (· ≠ wanted))

end Namespace

namespace Resolution

variable {δ ρ : Type} [Declared δ]

open Declared (name base shared)

def trailOf (e : Entity) (d : δ) : Trail := [e.frame (name d)]

/-- Claims the names of declarations in turn. -/
def registerAll (e : Entity) (ds : List δ) (ns : Namespace) : Resolved Namespace :=
  ds.foldlM (fun ns d ↦
    (ns.register (name d) e).mapError fun clash ↦ ⟨.nameClash clash, trailOf e d⟩) ns

/-- A declaration does not refer to a shared object. -/
def checkDeclaration (e : Entity) (d : δ) : Resolved Unit :=
  match shared d with
  | some s => fails (trailOf e d) (.sharedDeclaration s)
  | none => pure ()

/-- Every template is a proper declaration, and its base is in the list. -/
def checkTemplates (ns : Namespace) (e : Entity) (ds : List δ) : Resolved Unit :=
  ds.forM fun d ↦ do
    checkDeclaration e d
    match base d with
    | none => pure ()
    | some b =>
      if ds.any fun d ↦ name d == b then pure ()
      else fails (trailOf e d) (ns.missing e b)

/-- What building a declaration on its base takes. -/
abbrev Build (δ ρ : Type) := δ → Option ρ → Trail → Resolved ρ

/-- The base of a template among those that are resolved: `none` if it is not there yet. -/
def readyBase (resolved : List (String × ρ)) (d : δ) : Option (Option ρ) :=
  match base d with
  | none => some none
  | some b => (resolved.lookup b).map some

/-- One pass over the pending templates. Those without their base are put off. -/
def pass (e : Entity) (build : Build δ ρ) :
    List δ → List (String × ρ) → Resolved (List (String × ρ) × List δ)
  | [], resolved => pure (resolved, [])
  | d :: rest, resolved =>
    match readyBase resolved d with
    | none => do
      let (resolved, deferred) ← pass e build rest resolved
      pure (resolved, d :: deferred)
    | some b => do
      let r ← build d b (trailOf e d)
      pass e build rest (Assoc.insert (name d) r resolved)

/-- Passes until no template is pending. A pass that resolves nothing has only cycles left. -/
def passes (e : Entity) (build : Build δ ρ) (pending : List δ) (resolved : List (String × ρ)) :
    Resolved (List (String × ρ)) :=
  if pending.isEmpty then pure resolved
  else
    match pass e build pending resolved with
    | .error failure => .error failure
    | .ok (resolved, deferred) =>
      if deferred.length < pending.length then passes e build deferred resolved
      else fails [] (.cycle e.kind (deferred.map name))
termination_by pending.length

def resolveTemplates (ns : Namespace) (kind : EntityKind) (build : Build δ ρ) (ds : List δ) :
    Resolved (List (String × ρ)) := do
  let e : Entity := ⟨kind, .template⟩
  checkTemplates ns e ds
  passes e build ds []

/-- The template that an instance is based on. -/
def findBase (ns : Namespace) (kind : EntityKind) (templates : List (String × ρ)) (trail : Trail) :
    Option String → Resolved (Option ρ)
  | none => pure none
  | some b => some <$> orFails trail (ns.missing ⟨kind, .template⟩ b) (templates.lookup b)

def resolveInstances (ns : Namespace) (kind : EntityKind) (build : Build δ ρ)
    (templates : List (String × ρ)) (ds : List δ) : Resolved (List (String × ρ)) :=
  let e : Entity := ⟨kind, .shared⟩
  ds.foldlM (fun resolved d ↦ do
    checkDeclaration e d
    let b ← findBase ns kind templates (trailOf e d) (base d)
    let r ← build d b (trailOf e d)
    pure (Assoc.insert (name d) r resolved)) []

end Resolution

/-- The resolved declarations of one kind. -/
structure Tables (ρ : Type) where
  templates : List (String × ρ) := []
  shared : List (String × ρ) := []

/-- Resolves the templates of a kind, then its instances. -/
def Resolution.resolveKind {δ ρ : Type} [Declared δ] (ns : Namespace) (kind : EntityKind)
    (build : Build δ ρ) (templates instances : List δ) : Resolved (Tables ρ) := do
  let ts ← resolveTemplates ns kind build templates
  let is ← resolveInstances ns kind build ts instances
  pure ⟨ts, is⟩

end TelemetrySim
