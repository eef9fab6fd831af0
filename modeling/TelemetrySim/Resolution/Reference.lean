import TelemetrySim.Config.Basic
import TelemetrySim.Resolution.Inheritance

/-!
Resolving references, and building declarations on their bases. A reference to a shared object
writes nothing else and keeps the object's name as a marker; a reference to a template copies it and
replaces what is written; otherwise every mandatory field has to be written. A part and its marker
are always replaced together.
-/

set_option autoImplicit false
set_option relaxedAutoImplicit false

namespace TelemetrySim

/-- What has been resolved so far. -/
structure Scope where
  names : Namespace := {}
  clocks : Tables Config.Clock := {}
  sources : Tables Config.Source := {}
  values : Tables Config.Value := {}

namespace Scope

def sharedEntity (kind : EntityKind) : Entity := ⟨kind, .shared⟩

def templateEntity (kind : EntityKind) : Entity := ⟨kind, .template⟩

/-- The shared object of a name, provided that the reference changes nothing. -/
def findShared {ρ : Type} (s : Scope) (kind : EntityKind) (tables : Tables ρ) (overrides : Bool)
    (name : String) (trail : Trail) : Resolved ρ :=
  if overrides then fails trail (.overridden name)
  else orFails trail (s.names.missing (sharedEntity kind) name) (tables.shared.lookup name)

def findTemplate {ρ : Type} (s : Scope) (kind : EntityKind) (tables : Tables ρ) (name : String)
    (trail : Trail) : Resolved ρ :=
  orFails trail (s.names.missing (templateEntity kind) name) (tables.templates.lookup name)

/-- Resolves a reference of a kind, with its marker: the name of the shared entity, if it is one. -/
def refer {δ ρ : Type} (s : Scope) (kind : EntityKind) (tables : Tables ρ)
    (build : Resolution.Build δ ρ) (d : δ) (reference : Decl.Reference) (overrides : Bool)
    (trail : Trail) : Resolved (ρ × Option String) :=
  match reference with
  | .shared name => do
    let r ← s.findShared kind tables overrides name trail
    pure (r, some name)
  | .copied name => do
    let base ← s.findTemplate kind tables name trail
    let r ← build d (some base) ((templateEntity kind).frame name :: trail)
    pure (r, none)
  | .inPlace => do
    let r ← build d none trail
    pure (r, none)

def buildClock (c : Decl.Clock) (base : Option Config.Clock) (trail : Trail) :
    Resolved Config.Clock := do
  let kind ← orFails trail .clockTypeRequired (Decl.nonEmpty (c.kind.or (base.map (·.kind))))
  let interval ← orFails trail .clockIntervalRequired (c.interval.or (base.map (·.interval)))
  if interval.isZero then fails trail .clockIntervalZero else pure ⟨kind, interval⟩

/-- Resolves a reference to a clock, with its marker. -/
def resolveClock (s : Scope) (c : Decl.Clock) (trail : Trail) :
    Resolved (Config.Clock × Option String) :=
  s.refer .clock s.clocks buildClock c c.reference c.hasOverrides trail

/-- The clock of a reference with its marker, or the inherited pair if no reference is written. -/
def clockOr (s : Scope) (c : Option Decl.Clock) (inherited : Option Config.Clock × Option String)
    (trail : Trail) : Resolved (Option Config.Clock × Option String) :=
  match c with
  | none => pure inherited
  | some c => do
    let (clock, ref) ← s.resolveClock c trail
    pure (some clock, ref)

def buildSource (s : Scope) (d : Decl.Source) (base : Option Config.Source) (trail : Trail) :
    Resolved Config.Source := do
  let base := base.getD {}
  let (clock, clockRef) ← s.clockOr d.clock (base.clock, base.clockRef) trail
  let source : Config.Source := {
    kind := d.kind.getD base.kind
    clock := clock
    clockRef := clockRef
    min := d.min.getD base.min
    max := d.max.getD base.max }
  if source.kind = "" then fails trail .sourceTypeRequired
  else if source.max < source.min then fails trail (.sourceBounds source.min source.max)
  else pure source

/-- Resolves a reference to a source, with its marker. -/
def resolveSource (s : Scope) (d : Decl.Source) (trail : Trail) :
    Resolved (Config.Source × Option String) :=
  s.refer .source s.sources s.buildSource d d.reference d.hasOverrides trail

/-- The source of a reference with its marker, or the inherited pair if no reference is written. -/
def sourceOr (s : Scope) (d : Option Decl.Source) (inherited : Config.Source × Option String)
    (trail : Trail) : Resolved (Config.Source × Option String) :=
  match d with
  | none => pure inherited
  | some d => s.resolveSource d trail

def transformsOf (ts : List Decl.Transform) : List Config.Transform := ts.map fun t ↦ ⟨t.kind⟩

def resetOf (r : Decl.Reset) : Config.Reset := ⟨r.kind, r.value⟩

def buildValue (s : Scope) (d : Decl.Value) (base : Option Config.Value) (trail : Trail) :
    Resolved Config.Value := do
  let base := base.getD {}
  let (source, sourceRef) ← s.sourceOr d.source (base.source, base.sourceRef) trail
  let (clock, clockRef) ← s.clockOr d.clock (base.clock, base.clockRef) trail
  let value : Config.Value := {
    source := source
    sourceRef := sourceRef
    clock := clock
    clockRef := clockRef
    transforms := (d.transforms.map transformsOf).getD base.transforms
    reset := (d.reset.map resetOf).or base.reset }
  if value.source.kind = "" then fails trail .sourceRequired
  else if value.effectiveClock.isNone then fails trail .clockRequired
  else pure value

/-- Resolves a reference to a value. A value has no marker of its own: a shared value keeps the
markers of its parts, and every metric has a value to itself. -/
def resolveValue (s : Scope) (d : Decl.Value) (trail : Trail) : Resolved Config.Value := do
  let (value, _) ← s.refer .value s.values s.buildValue d d.reference d.hasOverrides trail
  pure value

end Scope

end TelemetrySim
