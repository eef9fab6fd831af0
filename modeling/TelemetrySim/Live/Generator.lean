import TelemetrySim.Live.Build
import TelemetrySim.Resolution.Document

/-!
The generator: the objects behind the metrics of a configuration, and whether it has been started.
-/

set_option autoImplicit false
set_option relaxedAutoImplicit false

namespace TelemetrySim.Live

structure Generator (σ : Type := Circuit) where
  /-- The state of the maker of the objects. -/
  objects : σ
  /-- Every clock, in the order in which they were built. -/
  clockList : List ClockId
  /-- The shared clocks that were built. -/
  clocks : List (String × ClockId)
  /-- The shared sources that were built. -/
  feeds : List (String × Feed)
  sourceCount : Nat
  /-- The objects of each metric, in the order of the metrics. -/
  metrics : Array Handles
  running : Bool := false

namespace Generator

section

variable {σ : Type}

/-- The generator of metrics whose objects have been built. -/
def ofBuilder (handles : List Handles) (b : Builder σ) : Generator σ where
  objects := b.objects
  clockList := b.clockList
  clocks := b.clocks
  feeds := b.feeds
  sourceCount := b.sourceCount
  metrics := handles.toArray

/-- Has the objects of metrics made by a factory. -/
def build (F : Factory σ) (objects : σ) (instances : Config.Instances)
    (metrics : List Config.Metric) : Except BuildError (Generator σ) := do
  let (handles, b) ← Builder.metrics F instances 0 metrics { objects := objects }
  pure (ofBuilder handles b)

def handles? (g : Generator σ) (metric : Nat) : Option Handles := g.metrics[metric]?

def clockCount (g : Generator σ) : Nat := g.clockList.length

end

variable {ρ : Type}

/-- Builds the circuit behind metrics. -/
def ofMetrics [Random.Rng ρ] (seeds : Random.Seeds) (instances : Config.Instances)
    (metrics : List Config.Metric) : Except BuildError (Generator (Circuit ρ)) :=
  build Circuit.factory { seeds := seeds } instances metrics

def ofConfig [Random.Rng ρ] (seeds : Random.Seeds) (config : Config) :
    Except BuildError (Generator (Circuit ρ)) :=
  ofMetrics seeds config.instances config.metrics

abbrev circuit (g : Generator (Circuit ρ)) : Circuit ρ := g.objects

/-- Changes the circuit. -/
def onCircuit (f : Circuit ρ → Circuit ρ) (g : Generator (Circuit ρ)) : Generator (Circuit ρ) :=
  { g with objects := f g.circuit }

/-- One tick of one clock. -/
def tick [Random.Rng ρ] (clock : ClockId) (g : Generator (Circuit ρ)) : Generator (Circuit ρ) :=
  g.onCircuit (·.tick clock)

/-- One tick of every clock, in the order in which they were built. -/
def tickAll [Random.Rng ρ] (g : Generator (Circuit ρ)) : Generator (Circuit ρ) :=
  g.onCircuit fun c ↦ g.clockList.foldl (fun c id ↦ c.tick id) c

def tickAllTimes [Random.Rng ρ] (n : Nat) (g : Generator (Circuit ρ)) : Generator (Circuit ρ) :=
  n.repeat tickAll g

/-- Time passes from one time to another. -/
def elapse [Random.Rng ρ] (since now : Nat) (g : Generator (Circuit ρ)) : Generator (Circuit ρ) :=
  g.onCircuit (·.elapse since now)

/-! ### Readings -/

def peek? (metric : Nat) (g : Generator (Circuit ρ)) : Option Int64 :=
  (g.handles? metric).bind fun h ↦ g.circuit.peek? h.value

/-- The readings of all metrics, which stay as they are. -/
def peekAll (g : Generator (Circuit ρ)) : List Int64 :=
  g.metrics.toList.filterMap fun h ↦ g.circuit.peek? h.value

/-- Takes the reading of a value. -/
def readValue (value : ValueId) (g : Generator (Circuit ρ)) :
    Option (Int64 × Generator (Circuit ρ)) :=
  (g.circuit.read? value).map fun (x, c) ↦ (x, { g with objects := c })

/-- Takes the reading of a metric. -/
def read? (metric : Nat) (g : Generator (Circuit ρ)) : Option (Int64 × Generator (Circuit ρ)) :=
  (g.handles? metric).bind fun h ↦ g.readValue h.value

/-! ### Start and stop -/

/-- Starts clocks one by one, up to the first that cannot be started. -/
def startClocks (now : Option Nat) : List ClockId → Circuit ρ → Option Fault × Circuit ρ
  | [], c => (none, c)
  | id :: rest, c =>
    match c.startClock now id with
    | .error f => (some f, c)
    | .ok c => startClocks now rest c

/-- Starts every clock. The generator counts as running from then on, also if a clock fails. -/
def start (now : Option Nat) (g : Generator (Circuit ρ)) : Option Fault × Generator (Circuit ρ) :=
  let (fault, circuit) := startClocks now g.clockList g.circuit
  (fault, { g with running := true, objects := circuit })

/-- A single stop. -/
inductive Stop where
  | clock (id : ClockId)
  | value (id : ValueId)
deriving DecidableEq

def Stop.apply : Stop → Circuit ρ → Circuit ρ
  | clock id, c => c.stopClock id
  | value id, c => c.stopValue id

/-- What is stopped, and in which order: all clocks, then the values of all metrics, so that no tick
reaches a value that has been stopped. -/
def stops {σ : Type} (g : Generator σ) : List Stop :=
  g.clockList.map .clock ++ g.metrics.toList.map fun h ↦ .value h.value

/-- Stops everything, if the generator is running. -/
def stop (g : Generator (Circuit ρ)) : Generator (Circuit ρ) :=
  if g.running then
    { g with running := false, objects := g.stops.foldl (fun c s ↦ s.apply c) g.circuit }
  else g

/-! ### Texts -/

def startMessage (f : Fault) : String := "Failed to start generator: " ++ f.message

/-- The size of the generator and whether it is running. -/
def summary {σ : Type} (g : Generator σ) : String :=
  "Generator \x7b clocks: " ++ toString g.clockCount ++
    ", sources: " ++ toString g.sourceCount ++
    ", metrics: " ++ toString g.metrics.size ++
    ", running: " ++ (if g.running then "true" else "false") ++ " \x7d"

end Generator

end TelemetrySim.Live
