import TelemetrySim.Config.Export
import TelemetrySim.Proofs.Outcome
import TelemetrySim.Proofs.Sorted

/-!
The choice of an exporter. What an enabled section has to be like and which exporter it stands for
is said of the section alone (`Valid`, `Describes`), and each step of resolving it decides just that
(`resolvePull_decides`, `resolvePush_decides`). The choice itself knows a section only if it is
enabled (`filter_isEnabled_eq_some_iff`), so what a disabled one holds cannot matter.
-/

set_option autoImplicit false
set_option relaxedAutoImplicit false

namespace TelemetrySim

open Outcome

/-! ### What a document asks for -/

namespace Decl

/-- A port that is written is a port number. -/
def PortAllowed (port : Option Int64) : Prop :=
  ∀ p, port = some p → 1 ≤ p.toInt ∧ p.toInt ≤ 65535

/-- The port that is written, or else the default. -/
def portNumber (port : Option Int64) (default : Int) : Int := (port.map Int64.toInt).getD default

/-- What is written for a key. Keys are written once; of a repeated one the last value counts. -/
def Attributes.written (attributes : Option Attributes) (key : String) : Option String :=
  (attributes.getD []).reverse.lookup key

namespace Prometheus

structure Valid (d : Prometheus) : Prop where
  port : PortAllowed d.port
  path : ∀ s, d.path = some s → ['/'] <+: s.toList

/-- The endpoint that the section stands for. -/
structure Describes (d : Prometheus) (p : Config.Pull) : Prop where
  port : p.port.toNat = portNumber d.port 9090
  path : p.path = d.path.getD "/metrics"

end Prometheus

namespace Otel

/-- The interval for reading: a single interval, one for reading, or a second. -/
def readInterval (d : Otel) : Duration :=
  match d.interval with
  | some (.same t) | some (.forms (some t) _) => t
  | some (.forms none _) | none => .ofSeconds 1

/-- The interval for pushing: a single interval, one for pushing, or a second. -/
def pushInterval (d : Otel) : Duration :=
  match d.interval with
  | some (.same t) | some (.forms _ (some t)) => t
  | some (.forms _ none) | none => .ofSeconds 1

structure Valid (d : Otel) : Prop where
  transport : ∀ s, d.transport = some s → s = "grpc" ∨ s = "http"
  host : ∀ s, d.host = some s → s ≠ ""
  port : PortAllowed d.port
  readInterval : d.readInterval ≠ .zero
  pushInterval : d.pushInterval ≠ .zero

/-- What the resource of a collector says of the service if nothing is written. -/
def serviceDefault (key : String) : Option String :=
  if key = "service.name" then some "otelbox"
  else if key = "service.version" then some "0.1.0"
  else none

/-- The collector that the section stands for. -/
structure Describes (d : Otel) (p : Config.Push) : Prop where
  transport : p.transport = if d.transport = some "http" then .http else .grpc
  host : p.host = d.host.getD "localhost"
  port : p.port.toNat = portNumber d.port (if d.transport = some "http" then 4318 else 4317)
  readInterval : p.readInterval = d.readInterval
  pushInterval : p.pushInterval = d.pushInterval
  resource_sorted : Assoc.Sorted p.resource
  resource : ∀ key,
    p.resource.lookup key = (Attributes.written d.resource key).or (serviceDefault key)
  headers_sorted : Assoc.Sorted p.headers
  headers : ∀ key, p.headers.lookup key = Attributes.written d.headers key

end Otel

namespace Export

/-- The section of the pull exporter is written and not disabled. -/
def Pulls (d : Export) (p : Prometheus) : Prop := d.prometheus = some p ∧ p.enabled ≠ some false

/-- The section of the push exporter is written and not disabled. -/
def Pushes (d : Export) (o : Otel) : Prop := d.otel = some o ∧ o.enabled ≠ some false

/-- Not both exporters are enabled, and the one that is enabled is valid. -/
structure Valid (d : Export) : Prop where
  single : ∀ p o, d.Pulls p → ¬ d.Pushes o
  pull : ∀ p, d.Pulls p → p.Valid
  push : ∀ o, d.Pushes o → o.Valid

theorem valid_iff_of_pulls {d : Export} {p : Prometheus} (hp : d.Pulls p)
    (hpush : ∀ o, ¬ d.Pushes o) : d.Valid ↔ p.Valid := by
  refine ⟨fun h ↦ h.pull p hp, fun h ↦ ⟨fun _ o _ ↦ hpush o, ?_, fun o ho ↦ absurd ho (hpush o)⟩⟩
  intro p' hp'
  obtain rfl := Option.some_inj.mp (hp.1.symm.trans hp'.1)
  exact h

theorem valid_iff_of_pushes {d : Export} {o : Otel} (hpull : ∀ p, ¬ d.Pulls p)
    (ho : d.Pushes o) : d.Valid ↔ o.Valid := by
  refine ⟨fun h ↦ h.push o ho,
    fun h ↦ ⟨fun p _ hp ↦ absurd hp (hpull p), fun p hp ↦ absurd hp (hpull p), ?_⟩⟩
  intro o' ho'
  obtain rfl := Option.some_inj.mp (ho.1.symm.trans ho'.1)
  exact h

/-- The exporter that the sections stand for. -/
inductive Describes (d : Export) : Config.Export → Prop
  | pull {s : Prometheus} {p : Config.Pull} (hs : d.Pulls s) (hp : s.Describes p) :
      Describes d (.pull p)
  | push {s : Otel} {p : Config.Push} (hs : d.Pushes s) (hp : s.Describes p) :
      Describes d (.push p)
  | neither (hpull : ∀ s, ¬ d.Pulls s) (hpush : ∀ s, ¬ d.Pushes s) :
      Describes d (.pull ⟨9090, "/metrics"⟩)

/-- The documents have the same enabled sections. -/
structure SameEnabled (d d' : Export) : Prop where
  pulls : ∀ p, d.Pulls p ↔ d'.Pulls p
  pushes : ∀ o, d.Pushes o ↔ d'.Pushes o

end Export

end Decl

namespace Config.Export

/-! ### Single fields -/

/-- The error is met on the trail. -/
abbrev At (trail : Trail) (e : Failure) : Prop := e.trail = trail

/-- Where the default will do, only what is written matters. -/
theorem getD_iff {α : Type} {P : α → Prop} {o : Option α} {default : α} (h : P default) :
    P (o.getD default) ↔ ∀ a, o = some a → P a := by
  cases o with
  | none => exact iff_of_true h (by simp)
  | some a => simp

theorem resolvePort_decides (port : Option Int64) (default : UInt16) (trail : Trail) :
    Decides (At trail) (Decl.PortAllowed port)
      (fun q ↦ q.toNat = Decl.portNumber port default.toNat) (resolvePort port default trail) := by
  cases port with
  | none => exact .ok (by simp [Decl.PortAllowed]) rfl
  | some p =>
    have hallowed : Decl.PortAllowed (some p) ↔ 1 ≤ p.toInt ∧ p.toInt ≤ 65535 := by
      simp [Decl.PortAllowed]
    rw [resolvePort]
    split
    · next hbounds =>
      refine .ok (hallowed.mpr hbounds) ?_
      have hexact : (UInt16.ofNat p.toInt.toNat).toNat = p.toInt.toNat :=
        UInt16.toNat_ofNat_of_lt' (by simp only [UInt16.size]; omega)
      rw [hexact, Int.toNat_of_nonneg (by omega)]
      rfl
    · next hbounds => exact .error (mt hallowed.mp hbounds) rfl

theorem resolveTransport_decides (transport : Option String) :
    Decides (At pushTrail) (∀ s, transport = some s → s = "grpc" ∨ s = "http")
      (fun t ↦ t = if transport = some "http" then .http else .grpc)
      (resolveTransport transport) := by
  fun_cases resolveTransport transport with
  | case1 => exact .ok (by simp) rfl
  | case2 => exact .ok (by simp) rfl
  | case3 => exact .ok (by simp) rfl
  | case4 other hgrpc hhttp =>
    refine .error (fun hall ↦ ?_) rfl
    rcases hall other rfl with rfl | rfl
    · exact hgrpc rfl
    · exact hhttp rfl

theorem writtenIntervals_eq (d : Decl.Otel) :
    (writtenIntervals d.interval).1.getD defaultInterval = d.readInterval ∧
      (writtenIntervals d.interval).2.getD defaultInterval = d.pushInterval := by
  unfold Decl.Otel.readInterval Decl.Otel.pushInterval
  cases d.interval with
  | none => exact ⟨rfl, rfl⟩
  | some intervals =>
    cases intervals with
    | same t => exact ⟨rfl, rfl⟩
    | forms read push => cases read <;> cases push <;> exact ⟨rfl, rfl⟩

theorem lookup_resolveResource (resource : Option Decl.Attributes) (key : String) :
    (resolveResource resource).lookup key =
      (Decl.Attributes.written resource key).or (Decl.Otel.serviceDefault key) := by
  rw [resolveResource, Assoc.lookup_placeDefault, Assoc.lookup_placeDefault, Assoc.lookup_sorted,
    Option.or_assoc, Decl.Attributes.written, Decl.Otel.serviceDefault]
  congr 1
  by_cases hname : key = "service.name"
  · rw [if_pos hname, if_pos hname, Option.some_or]
  · rw [if_neg hname, if_neg hname, Option.none_or]

theorem resolveResource_sorted (resource : Option Decl.Attributes) :
    Assoc.Sorted (resolveResource resource) :=
  ((Assoc.sorted_sorted _).placeDefault _ _).placeDefault _ _

/-! ### Single sections -/

theorem resolvePull_decides (d : Decl.Prometheus) :
    Decides (At pullTrail) d.Valid d.Describes (resolvePull d) := by
  have hpath : ['/'] <+: (d.path.getD "/metrics").toList ↔
      ∀ s, d.path = some s → ['/'] <+: s.toList :=
    getD_iff (P := fun s : String ↦ ['/'] <+: s.toList) (by decide)
  refine Decides.congr ((resolvePort_decides d.port 9090 pullTrail).bind
    (q := ['/'] <+: (d.path.getD "/metrics").toList) fun port _ hport ↦ ?_) ?_
  · dsimp only
    split
    · next hstarts => exact .ok (String.startsWith_string_iff.mp hstarts) ⟨hport, rfl⟩
    · next hstarts => exact .error (fun h ↦ hstarts (String.startsWith_string_iff.mpr h)) rfl
  · exact ⟨fun ⟨hport, hstarts⟩ ↦ ⟨hport, hpath.mp hstarts⟩, fun h ↦ ⟨h.port, hpath.mpr h.path⟩⟩

theorem resolvePush_decides (d : Decl.Otel) :
    Decides (At pushTrail) d.Valid d.Describes (resolvePush d) := by
  have hhost : d.host.getD "localhost" ≠ "" ↔ ∀ s, d.host = some s → s ≠ "" :=
    getD_iff (P := (· ≠ "")) (by decide)
  obtain ⟨hread, hpush⟩ := writtenIntervals_eq d
  refine Decides.congr ((resolveTransport_decides d.transport).bind
    (q := d.host.getD "localhost" ≠ "" ∧ Decl.PortAllowed d.port ∧
      d.readInterval ≠ .zero ∧ d.pushInterval ≠ .zero) fun transport _ htransport ↦ ?_) ?_
  · dsimp only
    split
    · next hempty => exact .error (fun h ↦ h.1 hempty) rfl
    · next hsome =>
      refine Decides.congr ((resolvePort_decides d.port transport.defaultPort pushTrail).bind
        (q := d.readInterval ≠ .zero ∧ d.pushInterval ≠ .zero) fun port _ hport ↦ ?_)
        (by simp [hsome])
      rw [hread, hpush]
      split
      · next hzero =>
        refine .error (fun ⟨hreads, hpushes⟩ ↦ ?_) rfl
        rw [Bool.or_eq_true, Duration.isZero_iff, Duration.isZero_iff] at hzero
        exact hzero.elim hreads hpushes
      · next hzero =>
        rw [Bool.or_eq_true, Duration.isZero_iff, Duration.isZero_iff, not_or] at hzero
        exact .ok hzero {
          transport := htransport
          host := rfl
          port := hport.trans (by rw [htransport]; split <;> rfl)
          readInterval := rfl
          pushInterval := rfl
          resource_sorted := resolveResource_sorted d.resource
          resource := lookup_resolveResource d.resource
          headers_sorted := Assoc.sorted_sorted _
          headers := Assoc.lookup_sorted _ }
  · constructor
    · rintro ⟨htransport, hne, hport, hreads, hpushes⟩
      exact ⟨htransport, hhost.mp hne, hport, hreads, hpushes⟩
    · intro h
      exact ⟨h.transport, hhost.mpr h.host, h.port, h.readInterval, h.pushInterval⟩

/-! ### The choice -/

/-- A section counts if it is written and not disabled. -/
theorem filter_isEnabled_eq_some_iff {α : Type} {o : Option α} {enabled : α → Option Bool} {a : α} :
    o.filter (fun a ↦ isEnabled (enabled a)) = some a ↔ o = some a ∧ enabled a ≠ some false := by
  rw [Option.filter_eq_some_iff]
  refine and_congr_right fun _ ↦ ?_
  rcases enabled a with _ | _ | _ <;> simp [isEnabled]

theorem filter_isEnabled_congr {α : Type} {o o' : Option α} {enabled : α → Option Bool}
    (h : ∀ a, o = some a ∧ enabled a ≠ some false ↔ o' = some a ∧ enabled a ≠ some false) :
    o.filter (fun a ↦ isEnabled (enabled a)) = o'.filter fun a ↦ isEnabled (enabled a) := by
  refine Option.ext fun a ↦ ?_
  rw [filter_isEnabled_eq_some_iff, filter_isEnabled_eq_some_iff]
  exact h a

theorem resolve_eq_of_sameEnabled {d d' : Decl.Export} (h : d.SameEnabled d') :
    resolve d = resolve d' := by
  rw [resolve, resolve, filter_isEnabled_congr h.pulls, filter_isEnabled_congr h.pushes]

/-- What the choice comes down to. -/
theorem resolve_cases (d : Decl.Export) :
    (∃ p o, d.Pulls p ∧ d.Pushes o ∧ resolve d = fails pullTrail .twoExporters) ∨
      (∃ p, d.Pulls p ∧ (∀ o, ¬ d.Pushes o) ∧ resolve d = pull <$> resolvePull p) ∨
      (∃ o, (∀ p, ¬ d.Pulls p) ∧ d.Pushes o ∧ resolve d = push <$> resolvePush o) ∨
      (∀ p, ¬ d.Pulls p) ∧ (∀ o, ¬ d.Pushes o) ∧ resolve d = .ok (pull {}) := by
  have hpulls : ∀ p, d.Pulls p ↔ d.prometheus.filter (isEnabled ·.enabled) = some p :=
    fun p ↦ filter_isEnabled_eq_some_iff.symm
  have hpushes : ∀ o, d.Pushes o ↔ d.otel.filter (isEnabled ·.enabled) = some o :=
    fun o ↦ filter_isEnabled_eq_some_iff.symm
  simp only [hpulls, hpushes, resolve]
  cases d.prometheus.filter (isEnabled ·.enabled) with
  | none =>
    cases d.otel.filter (isEnabled ·.enabled) with
    | none => exact .inr (.inr (.inr ⟨by simp, by simp, rfl⟩))
    | some o => exact .inr (.inr (.inl ⟨o, by simp, rfl, rfl⟩))
  | some p =>
    cases d.otel.filter (isEnabled ·.enabled) with
    | none => exact .inr (.inl ⟨p, rfl, by simp, rfl⟩)
    | some o => exact .inl ⟨p, o, rfl, rfl, rfl⟩

/-- The error is about a section that is enabled. -/
def AboutEnabled (d : Decl.Export) (e : Failure) : Prop :=
  (∃ p, d.Pulls p) ∧ At pullTrail e ∨ (∃ o, d.Pushes o) ∧ At pushTrail e

theorem resolve_decides (d : Decl.Export) :
    Decides (AboutEnabled d) d.Valid d.Describes (resolve d) := by
  rcases resolve_cases d with ⟨p, o, hp, ho, h⟩ | ⟨p, hp, hpush, h⟩ | ⟨o, hpull, ho, h⟩ |
    ⟨hpull, hpush, h⟩
  · rw [h]
    exact .error (fun hvalid ↦ hvalid.single p o hp ho) (.inl ⟨⟨p, hp⟩, rfl⟩)
  · rw [h]
    have hchosen : Decides (AboutEnabled d) p.Valid d.Describes (pull <$> resolvePull p) :=
      ((resolvePull_decides p).map fun q hq ↦ .pull hp hq).mono_error
        fun e he ↦ .inl ⟨⟨p, hp⟩, he⟩
    exact hchosen.congr (Decl.Export.valid_iff_of_pulls hp hpush).symm
  · rw [h]
    have hchosen : Decides (AboutEnabled d) o.Valid d.Describes (push <$> resolvePush o) :=
      ((resolvePush_decides o).map fun q hq ↦ .push ho hq).mono_error
        fun e he ↦ .inr ⟨⟨o, ho⟩, he⟩
    exact hchosen.congr (Decl.Export.valid_iff_of_pushes hpull ho).symm
  · rw [h]
    exact .ok ⟨fun p _ hp ↦ absurd hp (hpull p), fun p hp ↦ absurd hp (hpull p),
      fun o ho ↦ absurd ho (hpush o)⟩ (.neither hpull hpush)

/-- Resolving the exporter succeeds exactly if not both sections are enabled and the enabled one is
valid. The result is the exporter that the sections stand for, with all that is written kept and
defaults for the rest only; an error is about an enabled section. Either is the same for all
documents with the same enabled sections, whatever a disabled section holds. -/
theorem resolves_enabled (d : Decl.Export) :
    ((∃ e, resolve d = .ok e) ↔ d.Valid) ∧
      (∀ e, resolve d = .ok e → d.Describes e) ∧
      (∀ e, resolve d = .error e → AboutEnabled d e) ∧
      ∀ d', d.SameEnabled d' → resolve d = resolve d' := by
  have hdecides := resolve_decides d
  exact ⟨hdecides.ok_iff, fun e ↦ hdecides.gives, hdecides.blames,
    fun d' ↦ resolve_eq_of_sameEnabled⟩

end Config.Export

/-! ### A demonstration -/

namespace Demo

/-- A collector, beside a disabled endpoint whose port and path would both be refused. -/
def collector : Decl.Export where
  prometheus := some { enabled := some false, port := some 70000, path := some "metrics" }
  otel := some {
    transport := some "http"
    port := some 65535
    interval := some (.forms none (some (.ofSeconds 30)))
    resource := some [("zone", "a"), ("service.name", "demo")] }

def collectorConfig : Config.Export :=
  .push {
    transport := .http
    host := "localhost"
    port := 65535
    readInterval := .ofSeconds 1
    pushInterval := .ofSeconds 30
    resource := [("service.name", "demo"), ("service.version", "0.1.0"), ("zone", "a")]
    headers := [] }

/-- The collector is resolved as if the endpoint were not there. -/
theorem collector_resolved :
    Config.Export.resolve collector = .ok collectorConfig ∧ collector.Valid ∧
      collector.Describes collectorConfig ∧
      Config.Export.resolve { collector with prometheus := none } = .ok collectorConfig := by
  have hresolved : Config.Export.resolve collector = .ok collectorConfig := by
    with_unfolding_all rfl
  obtain ⟨hvalid, hdescribes, -, hsame⟩ := Config.Export.resolves_enabled collector
  have hpull : ∀ p, ¬ collector.Pulls p := by
    rintro p ⟨hp, henabled⟩
    rw [← Option.some_inj.mp hp] at henabled
    exact henabled rfl
  have halone : collector.SameEnabled { collector with prometheus := none } :=
    ⟨fun p ↦ iff_of_false (hpull p) (fun h ↦ nomatch h.1), fun o ↦ Iff.rfl⟩
  exact ⟨hresolved, hvalid.mp ⟨_, hresolved⟩, hdescribes _ hresolved,
    (hsame _ halone).symm.trans hresolved⟩

end Demo

end TelemetrySim
