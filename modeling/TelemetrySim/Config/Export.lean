import TelemetrySim.Assoc
import TelemetrySim.Decl.Basic
import TelemetrySim.Resolution.Problem

/-!
The exporter: a pull endpoint or a push collector, never both, and the pull endpoint with its
defaults if neither is enabled. A section that is not enabled is not looked at.
-/

set_option autoImplicit false
set_option relaxedAutoImplicit false

namespace TelemetrySim.Config

structure Pull where
  port : UInt16 := 9090
  path : String := "/metrics"
deriving DecidableEq

inductive Transport where
  | grpc | http
deriving DecidableEq

def Transport.label : Transport → String
  | grpc => "grpc"
  | http => "http"

def Transport.defaultPort : Transport → UInt16
  | grpc => 4317
  | http => 4318

/-- A collector that readings are pushed to. Resource attributes and headers are sorted by key. -/
structure Push where
  transport : Transport
  host : String
  port : UInt16
  readInterval : Duration
  pushInterval : Duration
  resource : List (String × String)
  headers : List (String × String)
deriving DecidableEq

def Push.endpoint (p : Push) : String := p.host ++ ":" ++ toString p.port.toNat

inductive Export where
  | pull (p : Pull)
  | push (p : Push)
deriving DecidableEq

namespace Export

def defaultInterval : Duration := .ofSeconds 1

/-- A port from 1 to 65535, or the default. -/
def resolvePort (port : Option Int64) (default : UInt16) (trail : Trail) : Resolved UInt16 :=
  match port with
  | none => pure default
  | some p =>
    if 1 ≤ p.toInt ∧ p.toInt ≤ 65535 then pure (UInt16.ofNat p.toInt.toNat)
    else fails trail (.invalidPort p)

def pullTrail : Trail := [⟨"export", "prometheus"⟩]

def pushTrail : Trail := [⟨"export", "otel"⟩]

def resolvePull (d : Decl.Prometheus) : Resolved Pull := do
  let port ← resolvePort d.port 9090 pullTrail
  let path := d.path.getD "/metrics"
  if path.startsWith "/" then pure ⟨port, path⟩ else fails pullTrail (.invalidPath path)

def resolveTransport : Option String → Resolved Transport
  | none => pure .grpc
  | some "grpc" => pure .grpc
  | some "http" => pure .http
  | some other => fails pushTrail (.invalidTransport other)

/-- The written intervals for reading and for pushing. -/
def writtenIntervals : Option Decl.Intervals → Option Duration × Option Duration
  | none => (none, none)
  | some (.same d) => (some d, some d)
  | some (.forms r p) => (r, p)

/-- The attributes of the resource, with the name and version of the service unless they are
given. -/
def resolveResource (resource : Option Decl.Attributes) : List (String × String) :=
  Assoc.placeDefault "service.version" "0.1.0"
    (Assoc.placeDefault "service.name" "otelbox" (Assoc.sorted (resource.getD [])))

def resolvePush (d : Decl.Otel) : Resolved Push := do
  let transport ← resolveTransport d.transport
  let host := d.host.getD "localhost"
  if host = "" then fails pushTrail .emptyHost
  else
    let port ← resolvePort d.port transport.defaultPort pushTrail
    let (r, p) := writtenIntervals d.interval
    let readInterval := r.getD defaultInterval
    let pushInterval := p.getD defaultInterval
    if readInterval.isZero || pushInterval.isZero then fails pushTrail .exportIntervalZero
    else pure {
      transport := transport
      host := host
      port := port
      readInterval := readInterval
      pushInterval := pushInterval
      resource := resolveResource d.resource
      headers := Assoc.sorted (d.headers.getD []) }

/-- A section that is written is enabled unless it says otherwise. -/
def isEnabled (enabled : Option Bool) : Bool := enabled.getD true

def resolve (d : Decl.Export) : Resolved Export :=
  match d.prometheus.filter (isEnabled ·.enabled), d.otel.filter (isEnabled ·.enabled) with
  | some _, some _ => fails pullTrail .twoExporters
  | some p, none => pull <$> resolvePull p
  | none, some o => push <$> resolvePush o
  | none, none => pure (pull {})

end Export

end TelemetrySim.Config
