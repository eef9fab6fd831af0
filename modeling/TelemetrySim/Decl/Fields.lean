import TelemetrySim.Decl.Basic
import TelemetrySim.Decode

/-!
The fields of each declaration and how they are read. The order of the fields is the order in which
a list of their values is taken, where such a list is allowed. Places that admit more than one shape
(a name or its forms, a list or a range) are strict.
-/

set_option autoImplicit false
set_option relaxedAutoImplicit false

namespace TelemetrySim.Decl

open Decode

def Clock.decode : Decoder Clock := record [
  .option "name" text fun a c ↦ { c with name := a },
  .option "instance" text fun a c ↦ { c with instanceName := a },
  .option "template" text fun a c ↦ { c with templateName := a },
  .option "type" text fun a c ↦ { c with kind := a },
  .of "interval" .defaulted (optional duration) fun a c ↦ { c with interval := a }] {}

def Source.decode : Decoder Source := record [
  .option "name" text fun a s ↦ { s with name := a },
  .option "instance" text fun a s ↦ { s with instanceName := a },
  .option "template" text fun a s ↦ { s with templateName := a },
  .option "type" text fun a s ↦ { s with kind := a },
  .option "clock" Clock.decode fun a s ↦ { s with clock := a },
  .option "min" int64 fun a s ↦ { s with min := a },
  .option "max" int64 fun a s ↦ { s with max := a }] {}

def Transform.decode : Decoder Transform := strictly (either
  (fun r t ↦ Transform.mk <$> text r t)
  (record [.of "type" .required text fun a t ↦ { t with kind := a }] ⟨""⟩))

def Reset.decode : Decoder Reset := strictly (either
  (fun r t ↦ (Reset.mk · 0) <$> text r t)
  (record [
    .of "type" .required text fun a t ↦ { t with kind := a },
    .of "value" .defaulted int64 fun a t ↦ { t with value := a }] ⟨"", 0⟩))

def Value.decode : Decoder Value := record [
  .option "name" text fun a v ↦ { v with name := a },
  .option "instance" text fun a v ↦ { v with instanceName := a },
  .option "template" text fun a v ↦ { v with templateName := a },
  .option "source" Source.decode fun a v ↦ { v with source := a },
  .option "clock" Clock.decode fun a v ↦ { v with clock := a },
  .option "transforms" (list Transform.decode) fun a v ↦ { v with transforms := a },
  .option "reset" Reset.decode fun a v ↦ { v with reset := a }] {}

def MetricName.decode : Decoder MetricName := strictly (either
  (fun r t ↦ MetricName.same <$> text r t)
  (fun r t ↦ (fun p ↦ MetricName.forms p.1 p.2) <$> record [
    .option "prometheus" text fun a p ↦ (a, p.2),
    .option "otel" text fun a p ↦ (p.1, a)] (none, none) r t))

def Metric.decode : Decoder Metric := record [
  .of "name" .required MetricName.decode fun a m ↦ { m with name := a },
  .option "template" text fun a m ↦ { m with templateName := a },
  .option "type" text fun a m ↦ { m with kind := a },
  .option "description" text fun a m ↦ { m with description := a },
  .option "value" Value.decode fun a m ↦ { m with value := a },
  .option "attributes" (mapping text) fun a m ↦ { m with attributes := a }]
  { name := .same "" }

def MetricTemplate.decode : Decoder MetricTemplate := record [
  .option "name" text fun a m ↦ { m with name := a },
  .option "template" text fun a m ↦ { m with templateName := a },
  .option "type" text fun a m ↦ { m with kind := a },
  .option "description" text fun a m ↦ { m with description := a },
  .option "value" Value.decode fun a m ↦ { m with value := a },
  .option "attributes" (mapping text) fun a m ↦ { m with attributes := a }] {}

def Templates.decode : Decoder Templates := record [
  .of "clocks" .defaulted (list Clock.decode) fun a t ↦ { t with clocks := a },
  .of "sources" .defaulted (list Source.decode) fun a t ↦ { t with sources := a },
  .of "values" .defaulted (list Value.decode) fun a t ↦ { t with values := a },
  .of "metrics" .defaulted (list MetricTemplate.decode) fun a t ↦ { t with metrics := a }] {}

def Instances.decode : Decoder Instances := record [
  .of "clocks" .defaulted (list Clock.decode) fun a t ↦ { t with clocks := a },
  .of "sources" .defaulted (list Source.decode) fun a t ↦ { t with sources := a },
  .of "values" .defaulted (list Value.decode) fun a t ↦ { t with values := a }] {}

/-- An element of an iterator. A whole number beyond 64 bits with sign is taken as a float. -/
def Scalar.decode : Decoder Scalar := scalar fun l _ ↦
  match l.atom with
  | some (.text s) => some (.text s)
  | some (.int i) =>
    match Number.int64? i with
    | some n => some (.integer n)
    | none => some (.float (Number.Binary64.ofInt i))
  | some (.float x) => some (.float x)
  | some (.bool b) => some (.boolean b)
  | _ => none

def Range.decode : Decoder Range := record [
  .of "start" .required int64 fun a r ↦ { r with start := a },
  .of "end" .required int64 fun a r ↦ { r with stop := a },
  .of "step" .defaulted int64 fun a r ↦ { r with step := a }] ⟨0, 0, 1⟩

def Domain.decode : Decoder Domain := strictly (either
  (fun r t ↦ Domain.values <$> list Scalar.decode r t)
  (fun r t ↦ Domain.range <$>
    record [.of "range" .required Range.decode fun a _ ↦ a] ⟨0, 0, 1⟩ r t))

def Prometheus.decode : Decoder Prometheus := record [
  .option "enabled" bool fun a p ↦ { p with enabled := a },
  .option "port" int64 fun a p ↦ { p with port := a },
  .option "path" text fun a p ↦ { p with path := a }] {}

def Intervals.decode : Decoder Intervals := strictly (either
  (fun r t ↦ Intervals.same <$> duration r t)
  (fun r t ↦ (fun p ↦ Intervals.forms p.1 p.2) <$> record [
    .of "read" .defaulted (optional duration) fun a p ↦ (a, p.2),
    .of "push" .defaulted (optional duration) fun a p ↦ (p.1, a)] (none, none) r t))

def Otel.decode : Decoder Otel := record [
  .option "enabled" bool fun a o ↦ { o with enabled := a },
  .option "transport" text fun a o ↦ { o with transport := a },
  .option "host" text fun a o ↦ { o with host := a },
  .option "port" int64 fun a o ↦ { o with port := a },
  .option "interval" Intervals.decode fun a o ↦ { o with interval := a },
  .option "resource" (mapping text) fun a o ↦ { o with resource := a },
  .option "headers" (mapping text) fun a o ↦ { o with headers := a }] {}

def Export.decode : Decoder Export := record [
  .option "prometheus" Prometheus.decode fun a e ↦ { e with prometheus := a },
  .option "otel" Otel.decode fun a e ↦ { e with otel := a }] {}

def InternalMetrics.decode : Decoder InternalMetrics := record [
  .of "enabled" .defaulted bool fun a i ↦ { i with enabled := a },
  .option "format" text fun a i ↦ { i with format := a }] {}

def Settings.decode : Decoder Settings := record [
  .option "seed" uint64 fun a s ↦ { s with seed := a },
  .of "internal_metrics" .defaulted InternalMetrics.decode fun a s ↦
    { s with internalMetrics := a }] {}

def Document.decode : Decoder Document := record [
  .of "iterators" .defaulted (mapping Domain.decode) fun a d ↦ { d with iterators := a },
  .of "templates" .defaulted Templates.decode fun a d ↦ { d with templates := a },
  .of "instances" .defaulted Instances.decode fun a d ↦ { d with instances := a },
  .of "metrics" .defaulted (list Metric.decode) fun a d ↦ { d with metrics := a },
  .of "export" .defaulted Export.decode fun a d ↦ { d with exporter := a },
  .of "settings" .defaulted Settings.decode fun a d ↦ { d with settings := a }] {}

end TelemetrySim.Decl
