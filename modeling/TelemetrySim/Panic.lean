/-!
Panics: the program gives up where it stands, and nothing on the way out catches it or adds to it.
-/

set_option autoImplicit false
set_option relaxedAutoImplicit false

namespace TelemetrySim

inductive Panic where
  /-- A product does not fit in its word. -/
  | overflow
  /-- A list is to hold more than there are addresses for. -/
  | capacity
deriving DecidableEq

def Panic.message : Panic → String
  | overflow => "attempt to multiply with overflow"
  | capacity => "capacity overflow"

end TelemetrySim
