import TelemetrySim.Live.Factory
import TelemetrySim.Config.Basic
import TelemetrySim.Resolution.Entity

/-!
Building the objects of resolved metrics. A shared clock is built where it is first used and kept by
its name; so is a shared source, together with the clock that it listens to. A metric whose value
has a clock of its own, or whose source is not shared, gets a source of its own. Every metric has
its own value.
-/

set_option autoImplicit false
set_option relaxedAutoImplicit false

namespace TelemetrySim.Live

/-- What lacks a clock. -/
inductive Clockless where
  | value
  | sharedSource (name : String)
deriving DecidableEq

/-- Why the objects of a metric cannot be built. -/
inductive BuildProblem where
  | missing (kind : EntityKind) (name : String)
  | noClock (owner : Clockless)
  | fault (f : Fault)
deriving DecidableEq

def BuildProblem.message : BuildProblem → String
  | missing kind name => (Entity.mk kind .shared).label ++ " " ++ Text.quoted name ++ " not found"
  | noClock .value => "value has no clock"
  | noClock (.sharedSource name) =>
    (Entity.mk .source .shared).label ++ " " ++ Text.quoted name ++ " has no clock"
  | fault f => f.message

/-- The metric whose objects cannot be built. -/
structure BuildError where
  index : Nat
  metric : String
  problem : BuildProblem
deriving DecidableEq

def BuildError.message (e : BuildError) : String :=
  "Failed to construct metric " ++ toString e.index ++ " (" ++ e.metric ++ "): " ++
    e.problem.message

/-- The objects behind a metric. -/
structure Handles where
  clock : ClockId
  source : SourceId
  value : ValueId
deriving DecidableEq

/-- A source and the clock that it listens to. -/
structure Feed where
  clock : ClockId
  source : SourceId
deriving DecidableEq

/-- A generator in the making: the state of the maker, and the objects that it was asked for. -/
structure Builder (σ : Type) where
  objects : σ
  /-- Every clock that was built, in that order. -/
  clockList : List ClockId := []
  /-- The shared clocks that were built. -/
  clocks : List (String × ClockId) := []
  /-- The shared sources that were built. -/
  feeds : List (String × Feed) := []
  sourceCount : Nat := 0

/-- The outcome of a step of building. -/
abbrev Attempt (α : Type) := Except BuildProblem α

/-- A fault is the problem itself. -/
def orFault {α : Type} (r : Except Fault α) : Attempt α := r.mapError .fault

namespace Builder

variable {σ : Type} (F : Factory σ) (instances : Config.Instances)

def newClock (config : Config.Clock) (b : Builder σ) : Attempt (ClockId × Builder σ) := do
  let kind ← orFault (ClockKind.named config.kind)
  let (id, objects) ← orFault (F.clock ⟨kind, config.interval⟩ b.objects)
  pure (id, { b with objects := objects, clockList := b.clockList ++ [id] })

def newSource (config : Config.Source) (clock : ClockId) (b : Builder σ) :
    Attempt (SourceId × Builder σ) := do
  let kind ← orFault (SourceKind.named config.kind)
  let (id, objects) ← orFault (F.source ⟨kind, config.min, config.max⟩ clock b.objects)
  pure (id, { b with objects := objects, sourceCount := b.sourceCount + 1 })

/-- The clock of a configuration, or the shared one that the marker names. -/
def clock (config : Config.Clock) (marker : Option String) (b : Builder σ) :
    Attempt (ClockId × Builder σ) :=
  match marker with
  | none => b.newClock F config
  | some name =>
    match b.clocks.lookup name with
    | some id => pure (id, b)
    | none =>
      match instances.clocks.lookup name with
      | none => .error (.missing .clock name)
      | some config => do
        let (id, b) ← b.newClock F config
        pure (id, { b with clocks := b.clocks ++ [(name, id)] })

/-- A clock and a source that listens to it. -/
def newFeed (config : Config.Clock) (marker : Option String) (source : Config.Source)
    (b : Builder σ) : Attempt (Feed × Builder σ) := do
  let (clock, b) ← b.clock F instances config marker
  let (source, b) ← b.newSource F source clock
  pure (⟨clock, source⟩, b)

/-- The shared source of a name. -/
def sharedFeed (name : String) (b : Builder σ) : Attempt (Feed × Builder σ) :=
  match b.feeds.lookup name with
  | some feed => pure (feed, b)
  | none =>
    match instances.sources.lookup name with
    | none => .error (.missing .source name)
    | some source =>
      match source.clock with
      | none => .error (.noClock (.sharedSource name))
      | some config => do
        let (feed, b) ← b.newFeed F instances config source.clockRef source
        pure (feed, { b with feeds := b.feeds ++ [(name, feed)] })

/-- The source behind a value. A source listens to one clock, so a value that has a clock of its own
gets a source of its own. -/
def feed (v : Config.Value) (b : Builder σ) : Attempt (Feed × Builder σ) :=
  match v.sourceRef, v.clock with
  | some name, none => b.sharedFeed F instances name
  | _, _ =>
    match v.effectiveClock with
    | none => .error (.noClock .value)
    | some (config, marker) => b.newFeed F instances config marker v.source

def resetPolicy : Option Config.Reset → Except Fault ResetPolicy
  | none => .ok .never
  | some r => ResetPolicy.named r.kind r.value

/-- What is asked of the value behind a metric. -/
def valueSpec (v : Config.Value) : Except Fault ValueSpec := do
  let transforms ← v.transforms.mapM fun t ↦ Transform.named t.kind
  let reset ← resetPolicy v.reset
  pure ⟨transforms, reset⟩

/-- The objects of a metric. -/
def metric (v : Config.Value) (b : Builder σ) : Attempt (Handles × Builder σ) := do
  let (feed, b) ← b.feed F instances v
  let spec ← orFault (valueSpec v)
  let (value, objects) ← orFault (F.value spec feed.source b.objects)
  pure (⟨feed.clock, feed.source, value⟩, { b with objects := objects })

/-- The objects of metrics, the first of which has a number. -/
def metrics : Nat → List Config.Metric → Builder σ → Except BuildError (List Handles × Builder σ)
  | _, [], b => .ok ([], b)
  | index, m :: rest, b => do
    let (h, b) ← (b.metric F instances m.value).mapError fun p ↦ ⟨index, m.displayName, p⟩
    let (hs, b) ← metrics (index + 1) rest b
    pure (h :: hs, b)

end Builder

end TelemetrySim.Live
