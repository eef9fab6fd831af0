import TelemetrySim.Duration
import TelemetrySim.Live.Value
import TelemetrySim.Random.Seed
import TelemetrySim.Random.Stream

/-!
Clocks, sources and values that are wired up. Each object is known by its number among those of its
sort, in the order in which they were made. A tick of a clock makes each source that listens to it
draw once, and each draw goes to the values that listen to the source. Any generator of random
numbers will do, and a stream of random words is taken if none is named.
-/

set_option autoImplicit false
set_option relaxedAutoImplicit false

namespace TelemetrySim.Live

abbrev ClockId := Nat

abbrev SourceId := Nat

abbrev ValueId := Nat

structure Clock where
  interval : Duration
  /-- The sources that listen, in the order in which they joined. -/
  listeners : List SourceId := []
  /-- When the clock was started, in nanoseconds, if it runs. -/
  started : Option Nat := none

def Clock.isRunning (c : Clock) : Bool := c.started.isSome

structure Source (ρ : Type := Random.Stream) where
  min : Int64
  max : Int64
  stream : ρ
  /-- The last number drawn. -/
  latest : Option Int64 := none
  /-- The values that listen, in the order in which they joined. -/
  listeners : List ValueId := []

/-- Draws the next number. -/
def Source.draw {ρ : Type} [Random.Rng ρ] (s : Source ρ) : Int64 × Source ρ :=
  let (x, stream) := Random.Rng.between s.min s.max s.stream
  (x, { s with stream := stream, latest := some x })

structure Circuit (ρ : Type := Random.Stream) where
  seeds : Random.Seeds
  clocks : Array Clock := #[]
  sources : Array (Source ρ) := #[]
  values : Array Value := #[]

namespace Circuit

variable {ρ : Type}

/-- Adds a clock that ticks at an interval. -/
def addClock (interval : Duration) (c : Circuit ρ) : Except Fault (ClockId × Circuit ρ) :=
  if interval.isZero then .error .zeroInterval
  else .ok (c.clocks.size, { c with clocks := c.clocks.push { interval := interval } })

/-- Adds a source that draws from `min` to `max` at each tick of a clock. It has a stream of its
own. -/
def addSource [Random.Rng ρ] (min max : Int64) (clock : ClockId) (c : Circuit ρ) :
    Except Fault (SourceId × Circuit ρ) :=
  if max < min then .error (.emptyRange min max)
  else
    let id := c.sources.size
    let stream := Random.Rng.ofSeed c.seeds.child
    .ok (id, { c with
      seeds := c.seeds.advance
      sources := c.sources.push { min := min, max := max, stream := stream }
      clocks := c.clocks.modify clock fun k ↦ { k with listeners := k.listeners ++ [id] } })

/-- Adds a value that takes in what a source draws. -/
def addValue (transforms : List Transform) (reset : ResetPolicy) (source : SourceId)
    (c : Circuit ρ) : ValueId × Circuit ρ :=
  let id := c.values.size
  (id, { c with
    values := c.values.push (Value.new transforms reset)
    sources := c.sources.modify source fun s ↦ { s with listeners := s.listeners ++ [id] } })

/-- Changes one value. -/
def onValue (f : Value → Value) (id : ValueId) (c : Circuit ρ) : Circuit ρ :=
  { c with values := c.values.modify id f }

/-- Sends a number to values. -/
def publish (x : Int64) (listeners : List ValueId) (c : Circuit ρ) : Circuit ρ :=
  listeners.foldl (fun c id ↦ c.onValue (·.update x) id) c

/-- A source draws, and its number goes to its values. -/
def fire [Random.Rng ρ] (id : SourceId) (c : Circuit ρ) : Circuit ρ :=
  match c.sources[id]? with
  | none => c
  | some s =>
    let (x, s') := s.draw
    { c with sources := c.sources.setIfInBounds id s' }.publish x s.listeners

/-- One tick of a clock. -/
def tick [Random.Rng ρ] (id : ClockId) (c : Circuit ρ) : Circuit ρ :=
  match c.clocks[id]? with
  | none => c
  | some k => k.listeners.foldl (fun c s ↦ c.fire s) c

/-- Some ticks of a clock. -/
def ticks [Random.Rng ρ] (n : Nat) (id : ClockId) (c : Circuit ρ) : Circuit ρ :=
  n.repeat (tick id) c

def peek? (id : ValueId) (c : Circuit ρ) : Option Int64 := c.values[id]?.map Value.peek

def latest? (id : SourceId) (c : Circuit ρ) : Option Int64 := c.sources[id]?.bind Source.latest

/-- Takes the reading of a value. -/
def read? (id : ValueId) (c : Circuit ρ) : Option (Int64 × Circuit ρ) :=
  c.values[id]?.map fun v ↦ (v.peek, c.onValue Value.afterRead id)

def stopValue (id : ValueId) (c : Circuit ρ) : Circuit ρ := c.onValue Value.stop id

def isRunning (id : ClockId) (c : Circuit ρ) : Bool := c.clocks[id]?.any Clock.isRunning

/-- Starts a clock unless it runs. The time now is known only where time passes. -/
def startClock (now : Option Nat) (id : ClockId) (c : Circuit ρ) : Except Fault (Circuit ρ) :=
  if c.isRunning id then .ok c
  else
    match now with
    | none => .error .noTime
    | some t =>
      .ok { c with clocks := c.clocks.modify id fun k ↦ { k with started := some t } }

def stopClock (id : ClockId) (c : Circuit ρ) : Circuit ρ :=
  { c with clocks := c.clocks.modify id fun k ↦ { k with started := none } }

/-- How often a running clock ticks from one time to another: once at each multiple of its interval
after its start. -/
def dueTicks (k : Clock) (since now : Nat) : Nat :=
  match k.started with
  | none => 0
  | some t => (now - t) / k.interval.nanos - (since - t) / k.interval.nanos

/-- Time passes for every clock. -/
def elapse [Random.Rng ρ] (since now : Nat) (c : Circuit ρ) : Circuit ρ :=
  (List.range c.clocks.size).foldl (fun c id ↦
    match c.clocks[id]? with
    | none => c
    | some k => c.ticks (dueTicks k since now) id) c

end Circuit

end TelemetrySim.Live
