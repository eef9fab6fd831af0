import TelemetrySim.Live.Kind

/-!
Values: a reading that is changed by updates, may be set back when it is read, and ignores updates
once it is stopped.
-/

set_option autoImplicit false
set_option relaxedAutoImplicit false

namespace TelemetrySim.Live

/-- The integer of 64 bits that is nearest to `i`. -/
def saturate (i : Int) : Int64 :=
  if i < Int64.minValue.toInt then Int64.minValue
  else if Int64.maxValue.toInt < i then Int64.maxValue
  else Int64.ofInt i

def Transform.apply : Transform → Int64 → Int64 → Int64
  | accumulate, current, update => saturate (current.toInt + update.toInt)

/-- The reading after an update. It goes through all transforms, each of which sees the reading
before the update; without transforms it replaces the reading. -/
def combine (transforms : List Transform) (current update : Int64) : Int64 :=
  transforms.foldl (fun next t ↦ t.apply current next) update

/-- The reading before any update. -/
def ResetPolicy.initial : ResetPolicy → Int64
  | never => 0
  | onRead value => value

/-- The reading once `current` has been read. -/
def ResetPolicy.afterRead : ResetPolicy → Int64 → Int64
  | never, current => current
  | onRead value, _ => value

structure Value where
  transforms : List Transform
  reset : ResetPolicy
  current : Int64
  stopped : Bool := false
deriving DecidableEq

namespace Value

def new (transforms : List Transform) (reset : ResetPolicy) : Value where
  transforms := transforms
  reset := reset
  current := reset.initial

def update (v : Value) (x : Int64) : Value :=
  if v.stopped then v else { v with current := combine v.transforms v.current x }

/-- The reading. Looking at it changes nothing. -/
def peek (v : Value) : Int64 := v.current

/-- The value once its reading has been taken. -/
def afterRead (v : Value) : Value := { v with current := v.reset.afterRead v.current }

def read (v : Value) : Int64 × Value := (v.peek, v.afterRead)

def stop (v : Value) : Value := { v with stopped := true }

end Value

end TelemetrySim.Live
