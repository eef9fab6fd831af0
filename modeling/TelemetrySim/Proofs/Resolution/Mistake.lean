import TelemetrySim.Proofs.Outcome
import TelemetrySim.Proofs.Parts
import TelemetrySim.Proofs.Resolution.Kind

/-!
What goes wrong while a declaration is built. Building descends into the references that an entry
holds, and a mistake is met at the end of such a descent (`Mistake`): something is wrong with what
is written there, or a name is looked up that is not known. The trail shows the descent. A reference
that copies a template adds a frame to it, one that is written in place adds none. The errors of a
kind are the mistakes of its declarations and those of what they are based on (`KindMistake`), and
the errors of metrics are alike (`MetricMistake`).
-/

set_option autoImplicit false
set_option relaxedAutoImplicit false

namespace TelemetrySim

open Outcome
open Decl (Entry)

/-- The problem lies in what is written, whatever else is declared. -/
def Problem.isLocal : Problem → Bool
  | nameClash _ => false
  | notFound .. => false
  | cycle .. => false
  | _ => true

/-- The names under which something is found. -/
def Tables.names {ρ : Type} (t : Tables ρ) : Origin → List String
  | .template => Assoc.keys t.templates
  | .shared => Assoc.keys t.shared

/-- The names of what references can refer to. -/
def Scope.known (s : Scope) : Entity → List String
  | ⟨.clock, o⟩ => s.clocks.names o
  | ⟨.source, o⟩ => s.sources.names o
  | ⟨.value, o⟩ => s.values.names o
  | ⟨.metric, _⟩ => []

/-- The template that an entry copies, with what it is declared as. -/
def Decl.Entry.templates (e : Entry) : List (String × Entity) :=
  e.base?.toList.map fun n ↦ (n, ⟨e.kind, .template⟩)

theorem Decl.Entry.templates_of_none {e : Entry} (h : e.base? = none) : e.templates = [] := by
  rw [templates, h]
  rfl

theorem Decl.Entry.templates_of_some {e : Entry} {n : String} (h : e.base? = some n) :
    e.templates = [(n, ⟨e.kind, .template⟩)] := by
  rw [templates, h]
  rfl

theorem Decl.Entry.kind_of_mem_templates {e : Entry} {p : String × Entity} (h : p ∈ e.templates) :
    p.2.kind = e.kind := by
  obtain ⟨n, -, rfl⟩ := List.mem_map.mp h
  rfl

def frameOf (p : String × Entity) : Frame := p.2.frame p.1

/-- What can go wrong with an entry that is built on the way of a trail. -/
inductive Mistake (s : Scope) : Entry → Trail → Failure → Prop
  | own {e : Entry} {trail : Trail} {p : Problem} (hp : p.isLocal) : Mistake s e trail ⟨p, trail⟩
  /-- A reference of the entry is to nothing. -/
  | missing {e r : Entry} {trail : Trail} {o : Origin} {n : String} (hr : r ∈ e.parts)
      (hn : n ∉ s.known ⟨r.kind, o⟩) : Mistake s e trail ⟨s.names.missing ⟨r.kind, o⟩ n, trail⟩
  /-- Something is wrong further inside, in a reference whose template is known. -/
  | inside {e r : Entry} {trail : Trail} {f : Failure} (hr : r ∈ e.parts)
      (hknown : ∀ p ∈ r.templates, p.1 ∈ s.known p.2)
      (h : Mistake s r (r.templates.map frameOf ++ trail) f) : Mistake s e trail f

/-! ### References -/

namespace Scope

variable {s : Scope} {e : Entry} {trail : Trail}

theorem fails_mistake {α : Type} {p : Problem} (hp : p.isLocal) :
    Blames (Mistake s e trail) (fails trail p : Resolved α) :=
  .error (.own hp)

theorem orFails_mistake {α : Type} {p : Problem} (hp : p.isLocal) {a : Option α} :
    Blames (Mistake s e trail) (orFails trail p a) := by
  cases a with
  | none => exact fails_mistake hp
  | some a => exact .ok a

/-- A look-up finds what is known. -/
theorem orFails_missing {ρ : Type} {table : List (String × ρ)} {wanted : Entity} {n : String}
    {E : Failure → Prop} (h : n ∉ Assoc.keys table → E ⟨s.names.missing wanted n, trail⟩) :
    Blames E (orFails trail (s.names.missing wanted n) (table.lookup n)) := by
  cases hlookup : table.lookup n with
  | none =>
    refine .error (h fun hmem ↦ ?_)
    obtain ⟨r, hr⟩ := Assoc.mem_keys_iff.mp hmem
    simp [hlookup] at hr
  | some r => exact .ok r

theorem refer_mistake {δ ρ : Type} {kind : EntityKind} {tables : Tables ρ}
    {build : Resolution.Build δ ρ} {d : δ} {r : Entry} {overrides : Bool}
    {instanceName : Option String} (hr : r ∈ e.parts)
    (htables : ∀ o, s.known ⟨r.kind, o⟩ = tables.names o) (hkind : r.kind = kind)
    (hbuild : ∀ b trail, Blames (Mistake s r trail) (build d b trail)) :
    Blames (Mistake s e trail)
      (s.refer kind tables build d (.of instanceName r.base?) overrides trail) := by
  subst hkind
  cases instanceName with
  | some name =>
    have hfind : Blames (Mistake s e trail) (s.findShared r.kind tables overrides name trail) := by
      refine .ite (fails_mistake rfl) (orFails_missing fun hn ↦ .missing hr ?_)
      rw [htables]
      exact hn
    exact hfind.bind fun _ _ ↦ .ok _
  | none =>
    cases hbase : r.base? with
    | none =>
      have htemplates := Entry.templates_of_none hbase
      refine Blames.bind ((hbuild none trail).mono fun f hf ↦ .inside hr ?_ ?_) fun _ _ ↦ .ok _
      · simp [htemplates]
      · rw [htemplates]
        exact hf
    | some name =>
      have htemplates := Entry.templates_of_some hbase
      have hfind : Blames (Mistake s e trail) (s.findTemplate r.kind tables name trail) := by
        refine orFails_missing fun hn ↦ .missing hr ?_
        rw [htables]
        exact hn
      refine hfind.bind fun b hb ↦ ?_
      have hknown : name ∈ tables.names .template :=
        Assoc.mem_keys_iff.mpr ⟨b, findTemplate_eq_ok_iff.mp hb⟩
      refine Blames.bind ((hbuild _ _).mono fun f hf ↦ .inside hr ?_ ?_) fun _ _ ↦ .ok _
      · simpa [htemplates, htables] using hknown
      · rw [htemplates]
        exact hf

theorem buildClock_mistake (c : Decl.Clock) (b : Option Config.Clock) :
    Blames (Mistake s (.clock c) trail) (buildClock c b trail) := by
  refine (orFails_mistake rfl).bind fun _ _ ↦ (orFails_mistake rfl).bind fun _ _ ↦ ?_
  exact .ite (fails_mistake rfl) (.ok _)

theorem clockOr_mistake {c : Option Decl.Clock} {inherited : Option Config.Clock × Option String}
    (hc : ∀ d, c = some d → .clock d ∈ e.parts) :
    Blames (Mistake s e trail) (s.clockOr c inherited trail) := by
  cases c with
  | none => exact .ok _
  | some c =>
    have hrefer : Blames (Mistake s e trail) (s.resolveClock c trail) :=
      refer_mistake (hc c rfl) (fun _ ↦ rfl) rfl fun b _ ↦ buildClock_mistake c b
    exact hrefer.bind fun _ _ ↦ .ok _

theorem buildSource_mistake (d : Decl.Source) (b : Option Config.Source) :
    Blames (Mistake s (.source d) trail) (s.buildSource d b trail) := by
  refine (clockOr_mistake fun c hc ↦ by simp [Entry.parts, hc]).bind fun _ _ ↦ ?_
  exact .ite (fails_mistake rfl) (.ite (fails_mistake rfl) (.ok _))

theorem sourceOr_mistake {d : Option Decl.Source} {inherited : Config.Source × Option String}
    (hd : ∀ x, d = some x → .source x ∈ e.parts) :
    Blames (Mistake s e trail) (s.sourceOr d inherited trail) := by
  cases d with
  | none => exact .ok _
  | some d => exact refer_mistake (hd d rfl) (fun _ ↦ rfl) rfl fun b _ ↦ buildSource_mistake d b

theorem buildValue_mistake (d : Decl.Value) (b : Option Config.Value) :
    Blames (Mistake s (.value d) trail) (s.buildValue d b trail) := by
  refine (sourceOr_mistake fun x hx ↦ by simp [Entry.parts, hx]).bind fun _ _ ↦ ?_
  refine (clockOr_mistake fun c hc ↦ by simp [Entry.parts, hc]).bind fun _ _ ↦ ?_
  exact .ite (fails_mistake rfl) (.ite (fails_mistake rfl) (.ok _))

theorem valueOr_mistake {d : Option Decl.Value} {inherited : Option Config.Value}
    (hd : ∀ v, d = some v → .value v ∈ e.parts) :
    Blames (Mistake s e trail) (s.valueOr d inherited trail) := by
  cases d with
  | none => exact .ok _
  | some d =>
    have hrefer : Blames (Mistake s e trail) (s.resolveValue d trail) :=
      Blames.bind (refer_mistake (hd d rfl) (fun _ ↦ rfl) rfl fun b _ ↦ buildValue_mistake d b)
        fun _ _ ↦ .ok _
    exact hrefer.map

/-! ### Metrics -/

theorem metricKind_mistake {written : Option String} {b : Option MetricBase} :
    Blames (Mistake s e trail) (metricKind written b trail) := by
  cases written with
  | none => exact orFails_mistake rfl
  | some text => exact orFails_mistake rfl

theorem attributesOr_mistake {a : Option Decl.Attributes} {inherited : Option Config.Attributes} :
    Blames (Mistake s e trail) (attributesOr a inherited trail) := by
  cases a with
  | none => exact .ok _
  | some a =>
    refine Blames.map ?_
    rw [buildAttributes]
    split
    · exact fails_mistake rfl
    · exact .ok _

theorem buildMetricTemplate_mistake (m : Decl.MetricTemplate) (b : Option MetricBase) :
    Blames (Mistake s (.metricTemplate m) trail) (s.buildMetricTemplate m b trail) :=
  metricKind_mistake.bind fun _ _ ↦
    (valueOr_mistake fun v hv ↦ by simp [Entry.parts, hv]).bind fun _ _ ↦
      attributesOr_mistake.bind fun _ _ ↦ .ok _

/-- What is left of a metric when its template is known. -/
def buildMetric (s : Scope) (m : Decl.Metric) (b : Option MetricBase) (trail : Trail) :
    Resolved Config.Metric := do
  let kind ← metricKind m.kind b trail
  let description ← orFails trail .descriptionRequired
    (Decl.nonEmpty (m.description.or (b.bind (·.description))))
  let value ← s.valueOr m.value (b.bind (·.value)) trail
  let value ← orFails trail .valueRequired value
  let attributes ← attributesOr m.attributes (b.bind (·.attributes)) trail
  pure {
    names := ⟨m.name.prometheus, m.name.otel⟩
    kind := kind
    description := description
    value := value
    attributes := attributes.getD [] }

theorem buildMetric_mistake (m : Decl.Metric) (b : Option MetricBase) :
    Blames (Mistake s (.metric m) trail) (s.buildMetric m b trail) :=
  metricKind_mistake.bind fun _ _ ↦ (orFails_mistake rfl).bind fun _ _ ↦
    (valueOr_mistake fun v hv ↦ by simp [Entry.parts, hv]).bind fun _ _ ↦
      (orFails_mistake rfl).bind fun _ _ ↦ attributesOr_mistake.bind fun _ _ ↦ .ok _

end Scope

/-! ### Declarations -/

namespace Resolution

open Declared (name base)
open Scope

/-- The declarations of a kind by their origin. -/
def declarations {δ : Type} (templates instances : List δ) : Origin → List δ
  | .template => templates
  | .shared => instances

/-- What can go wrong with the declarations of a kind when their names have been claimed. -/
inductive KindMistake {δ : Type} [Declared δ] (s : Scope) (k : EntityKind) (entry : δ → Entry)
    (templates instances : List δ) : Failure → Prop
  | inside {o : Origin} {d : δ} {f : Failure} (hd : d ∈ declarations templates instances o)
      (h : Mistake s (entry d) (trailOf ⟨k, o⟩ d) f) : KindMistake s k entry templates instances f
  /-- A declaration is based on nothing. -/
  | baseless {o : Origin} {d : δ} {n : String} (hd : d ∈ declarations templates instances o)
      (hn : n ∉ templates.map name) : KindMistake s k entry templates instances
        ⟨s.names.missing ⟨k, .template⟩ n, trailOf ⟨k, o⟩ d⟩
  /-- Templates are based on each other. -/
  | cycle {names : List String} : KindMistake s k entry templates instances ⟨.cycle k names, []⟩

variable {δ ρ : Type} [Declared δ] {s : Scope} {k : EntityKind} {entry : δ → Entry}
  {build : Build δ ρ} {templates instances : List δ}

theorem checkDeclaration_mistake {o : Origin} {d : δ}
    (hd : d ∈ declarations templates instances o) :
    Blames (KindMistake s k entry templates instances) (checkDeclaration ⟨k, o⟩ d) := by
  rw [checkDeclaration]
  split
  · exact .error (.inside hd (.own rfl))
  · exact .ok _

theorem checkTemplates_mistake :
    Blames (KindMistake s k entry templates instances)
      (checkTemplates s.names ⟨k, .template⟩ templates) := by
  refine Blames.forM fun d hd ↦ ?_
  refine (checkDeclaration_mistake (o := .template) hd).bind fun _ _ ↦ ?_
  cases base d with
  | none => exact .ok _
  | some b =>
    by_cases hdeclared : b ∈ templates.map name
    · have hany : (templates.any fun d ↦ name d == b) = true := by simpa using hdeclared
      simp only [hany, if_true]
      exact .ok _
    · have hany : (templates.any fun d ↦ name d == b) = false := by simpa using hdeclared
      simp only [hany, Bool.false_eq_true, if_false]
      exact .error (.baseless (o := .template) hd hdeclared)

section Kinds

variable (hbuild : ∀ d b trail, Blames (Mistake s (entry d) trail) (build d b trail))

include hbuild

theorem resolveTemplates_mistake (hnodup : (templates.map name).Nodup) :
    Blames (KindMistake s k entry templates instances)
      (resolveTemplates s.names k build templates) := by
  refine checkTemplates_mistake.bind fun _ _ f hf ↦ ?_
  rcases passes_error hnodup .start hf with ⟨d, hd, b, -, hfails⟩ | ⟨-, rfl⟩
  · exact .inside (o := .template) hd (hbuild d b _ f hfails)
  · exact .cycle

theorem resolveInstances_mistake {bases : List (String × ρ)}
    (hbases : ∀ n, n ∈ Assoc.keys bases ↔ n ∈ templates.map name) :
    Blames (KindMistake s k entry templates instances)
      (resolveInstances s.names k build bases instances) := by
  refine Blames.foldlM (fun d hd resolved ↦ ?_) []
  refine (checkDeclaration_mistake (o := .shared) hd).bind fun _ _ ↦ ?_
  have hbase : Blames (KindMistake s k entry templates instances)
      (findBase s.names k bases (trailOf ⟨k, .shared⟩ d) (base d)) := by
    cases base d with
    | none => exact .ok _
    | some b =>
      refine Blames.map (orFails_missing fun hn ↦ .baseless (o := .shared) hd ?_)
      rwa [← hbases]
  refine hbase.bind fun b _ ↦ Blames.bind ((hbuild d b _).mono fun f hf ↦ ?_) fun _ _ ↦ .ok _
  exact .inside (o := .shared) hd hf

theorem resolveKind_mistake (hnodup : (templates.map name).Nodup) :
    Blames (KindMistake s k entry templates instances)
      (resolveKind s.names k build templates instances) := by
  refine (resolveTemplates_mistake hbuild hnodup).bind fun bases hb ↦ ?_
  have hbases := resolveTemplates_ok hnodup hb
  exact (resolveInstances_mistake hbuild fun _ ↦ hbases.mem_keys_iff).bind fun _ _ ↦ .ok _

end Kinds

/-! ### Metrics -/

/-- What can go wrong with a metric. It is to its template what a reference is, but its own trail
comes before that of the template. -/
inductive MetricMistake (s : Scope) (templates : List Decl.MetricTemplate) (m : Decl.Metric) :
    Failure → Prop
  | own {p : Problem} (hp : p.isLocal) : MetricMistake s templates m ⟨p, metricTrail m⟩
  | missing {n : String} (hn : n ∉ templates.map name) :
      MetricMistake s templates m ⟨s.names.missing ⟨.metric, .template⟩ n, metricTrail m⟩
  | inside {f : Failure} (hknown : ∀ p ∈ (Entry.metric m).templates, p.1 ∈ templates.map name)
      (h : Mistake s (.metric m) ((Entry.metric m).templates.map frameOf ++ metricTrail m) f) :
      MetricMistake s templates m f

section Metrics

variable {templates : List Decl.MetricTemplate} {bases : List (String × MetricBase)}
  (hbases : ∀ n, n ∈ Assoc.keys bases ↔ n ∈ templates.map name)

include hbases

theorem resolveMetric_mistake {m : Decl.Metric} :
    Blames (MetricMistake s templates m) (s.resolveMetric bases m) := by
  have heq : s.resolveMetric bases m =
      s.metricBase bases m.templateName (metricTrail m) >>= fun p ↦ s.buildMetric m p.1 p.2 := rfl
  rw [heq]
  cases hname : m.templateName with
  | none =>
    have htemplates : (Entry.metric m).templates = [] := Entry.templates_of_none hname
    refine Blames.mono (buildMetric_mistake m none) fun f hf ↦ .inside ?_ ?_
    · simp [htemplates]
    · rw [htemplates]
      exact hf
  | some n =>
    have htemplates : (Entry.metric m).templates = [(n, ⟨.metric, .template⟩)] :=
      Entry.templates_of_some hname
    have hbase : Blames (MetricMistake s templates m)
        (s.metricBase bases (some n) (metricTrail m)) := by
      refine Blames.bind (orFails_missing fun hn ↦ .missing ?_) fun _ _ ↦ .ok _
      rwa [← hbases]
    refine hbase.bind fun p hp ↦ ?_
    obtain ⟨b, hb, hp⟩ := bind_eq_ok_iff.mp hp
    obtain rfl := Except.ok.inj hp
    have hn : n ∈ templates.map name :=
      (hbases n).mp (Assoc.mem_keys_iff.mpr ⟨b, orFails_eq_ok_iff.mp hb⟩)
    refine (buildMetric_mistake m (some b)).mono fun f hf ↦ .inside ?_ ?_
    · rw [htemplates]
      exact List.forall_mem_singleton.mpr hn
    · rw [htemplates]
      exact hf

theorem resolveMetrics_mistake {ms : List Decl.Metric} :
    Blames (fun f ↦ ∃ m ∈ ms, MetricMistake s templates m f) (s.resolveMetrics bases ms) := by
  refine Blames.foldlM (fun m hm done ↦ ?_) []
  refine ((resolveMetric_mistake hbases).mono fun f hf ↦ ⟨m, hm, hf⟩).bind fun metric _ ↦ ?_
  split
  · exact .error ⟨m, hm, .own rfl⟩
  · exact .ok _

end Metrics

/-! ### Phases -/

/-- A phase fails while names are claimed, or something else is wrong afterwards. -/
inductive PhaseMistake {δ : Type} [Declared δ] (k : EntityKind) (templates instances : List δ)
    (ns : Namespace) (E : Namespace → Failure → Prop) (f : Failure) : Prop
  | clash (h : register k templates instances ns = .error f)
  | later {ns' : Namespace} (hclaimed : register k templates instances ns = .ok ns') (h : E ns' f)

/-- Names that have been claimed are distinct. -/
theorem phase_mistake {α : Type} {ns : Namespace} {rest : Namespace → Resolved α}
    {E : Namespace → Failure → Prop} (hns : ns.claimed.Nodup)
    (hrest : ∀ ns', (templates.map name).Nodup → Blames (E ns') (rest ns')) :
    Blames (PhaseMistake k templates instances ns E)
      (register k templates instances ns >>= rest) := by
  intro f hf
  rcases bind_eq_error_iff.mp hf with hclash | ⟨ns', hclaimed, hf⟩
  · exact .clash hclash
  · have hnodup := ((register_eq_ok_iff hns).mp hclaimed).1
    exact .later hclaimed (hrest ns' hnodup.of_append_right.of_append_left f hf)

section Phases

variable (hs : s.names.claimed.Nodup)

include hs

theorem clockPhase_mistake {templates instances : List Decl.Clock} :
    Blames (PhaseMistake .clock templates instances s.names fun names ↦
        KindMistake { s with names := names } .clock .clock templates instances)
      (clockPhase templates instances s) :=
  phase_mistake hs fun names hnodup ↦ (resolveKind_mistake (s := { s with names := names })
    (fun d b _ ↦ buildClock_mistake d b) hnodup).bind fun _ _ ↦ .ok _

theorem sourcePhase_mistake {templates instances : List Decl.Source} :
    Blames (PhaseMistake .source templates instances s.names fun names ↦
        KindMistake { s with names := names } .source .source templates instances)
      (sourcePhase templates instances s) :=
  phase_mistake hs fun names hnodup ↦ (resolveKind_mistake (s := { s with names := names })
    (fun d b _ ↦ buildSource_mistake d b) hnodup).bind fun _ _ ↦ .ok _

theorem valuePhase_mistake {templates instances : List Decl.Value} :
    Blames (PhaseMistake .value templates instances s.names fun names ↦
        KindMistake { s with names := names } .value .value templates instances)
      (valuePhase templates instances s) :=
  phase_mistake hs fun names hnodup ↦ (resolveKind_mistake (s := { s with names := names })
    (fun d b _ ↦ buildValue_mistake d b) hnodup).bind fun _ _ ↦ .ok _

/-- The phase of metrics resolves their templates and then the metrics. -/
theorem metricPhase_mistake {templates : List Decl.MetricTemplate} {ms : List Decl.Metric} :
    Blames (PhaseMistake .metric templates [] s.names fun names f ↦
        KindMistake { s with names := names } .metric .metricTemplate templates [] f ∨
          ∃ m ∈ ms, MetricMistake { s with names := names } templates m f)
      (metricPhase templates ms s) := by
  refine phase_mistake hs fun names hnodup ↦ ?_
  have htemplates : Blames
      (KindMistake { s with names := names } .metric .metricTemplate templates [])
      (resolveTemplates names .metric (buildMetricTemplate { s with names := names }) templates) :=
    resolveTemplates_mistake (fun d b _ ↦ buildMetricTemplate_mistake d b) hnodup
  refine (htemplates.mono fun _ hf ↦ .inl hf).bind fun bases hb ↦ ?_
  have hbases := resolveTemplates_ok hnodup hb
  exact (resolveMetrics_mistake fun _ ↦ hbases.mem_keys_iff).mono fun _ hf ↦ .inr hf

end Phases

end Resolution

end TelemetrySim
