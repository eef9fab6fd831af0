/-!
The lists of a document, by the names that messages give them.
-/

set_option autoImplicit false
set_option relaxedAutoImplicit false

namespace TelemetrySim.Decl

inductive Section where
  | templateClocks | templateSources | templateValues | templateMetrics
  | instanceClocks | instanceSources | instanceValues
  | metrics
deriving DecidableEq

def Section.label : Section → String
  | .templateClocks => "templates.clocks"
  | .templateSources => "templates.sources"
  | .templateValues => "templates.values"
  | .templateMetrics => "templates.metrics"
  | .instanceClocks => "instances.clocks"
  | .instanceSources => "instances.sources"
  | .instanceValues => "instances.values"
  | .metrics => "metrics"

end TelemetrySim.Decl
