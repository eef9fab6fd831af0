import TelemetrySim.Exposition.Registry
import TelemetrySim.Proofs.Exposition.Lines
import TelemetrySim.Proofs.Live.Run
import TelemetrySim.Proofs.Pairing

/-!
Metrics as they are shown. A generator has a value for each metric it was built for, so its metrics
have a registry, and in whatever state the readings are taken, the text is that of one sample for
each metric (`render_exposes`).
-/

set_option autoImplicit false
set_option relaxedAutoImplicit false

namespace TelemetrySim.Exposition

/-- The sample is one of the metric. -/
structure Shows (m : Config.Metric) (s : Sample) : Prop where
  name : s.name = m.names.prometheus
  kind : s.kind = m.kind
  description : s.description = m.description
  attributes : s.attributes = m.attributes

/-- The text consists of the lines of samples, one for each metric. -/
structure Exposes (metrics : List Config.Metric) (samples : List Sample) (text : String) :
    Prop where
  shows : List.Forall₂ Shows metrics samples
  text_eq : text = String.join ((lines samples).map Line.text)

theorem map_eq_of_shows {α : Type} {f : Config.Metric → α} {g : Sample → α}
    (hfg : ∀ m s, Shows m s → g s = f m) {metrics : List Config.Metric} {samples : List Sample}
    (h : List.Forall₂ Shows metrics samples) : samples.map g = metrics.map f :=
  Pairing.map_eq hfg h

namespace Registry

variable {ρ : Type}

/-- A metric with its objects. -/
def series (m : Config.Metric) (h : Live.Handles) : Series :=
  ⟨m.names, m.kind, m.description, m.attributes, h.value⟩

theorem ofMetricsFrom_eq {σ : Type} {g : Live.Generator σ} {n : Nat} {metrics : List Config.Metric}
    (h : n + metrics.length ≤ g.metrics.size) :
    ofMetricsFrom g n metrics = .ok (metrics.zipWith series (g.metrics.toList.drop n)) := by
  induction metrics generalizing n with
  | nil => rfl
  | cons m rest ih =>
    rw [List.length_cons] at h
    have hlt : n < g.metrics.toList.length := by
      rw [Array.length_toList]
      omega
    have hhandles : g.handles? n = some g.metrics.toList[n] := by
      rw [Live.Generator.handles?, ← Array.getElem?_toList, List.getElem?_eq_getElem hlt]
    have hrest := ih (n := n + 1) (by omega)
    rw [ofMetricsFrom, hhandles, List.drop_eq_getElem_cons hlt, hrest]
    rfl

/-- A generator of as many metrics has a value for each of them. -/
theorem ofMetrics_eq {σ : Type} {g : Live.Generator σ} {metrics : List Config.Metric}
    (h : g.metrics.size = metrics.length) :
    ofMetrics metrics g = .ok (metrics.zipWith series g.metrics.toList) :=
  ofMetricsFrom_eq (by omega)

theorem readAll_cons (s : Series) (rest : Registry) (g : Live.Generator (Live.Circuit ρ)) :
    readAll (s :: rest) g =
      ((s, (s.read g).1) :: (readAll rest (s.read g).2).1, (readAll rest (s.read g).2).2) :=
  rfl

theorem readAll_fst (r : Registry) (g : Live.Generator (Live.Circuit ρ)) :
    (r.readAll g).1.map Prod.fst = r := by
  induction r generalizing g with
  | nil => rfl
  | cons s rest ih => rw [readAll, List.map_cons, ih]

/-- Families that are filled while the readings are taken are those of all readings. -/
theorem gather_eq (r : Registry) (done : List Sample) (g : Live.Generator (Live.Circuit ρ)) :
    r.gather (families done) g =
      (families (done ++ (r.readAll g).1.map sample), (r.readAll g).2) := by
  induction r generalizing done g with
  | nil => simp [gather, readAll]
  | cons s rest ih =>
    have hgather : gather (s :: rest) (families done) g =
        gather rest (addSample (sample (s, (s.read g).1)) (families done)) (s.read g).2 := rfl
    rw [hgather, ← families_concat, ih, readAll_cons, List.map_cons, List.append_assoc]
    rfl

theorem render_eq (r : Registry) (g : Live.Generator (Live.Circuit ρ)) :
    r.render g = (text ((r.readAll g).1.map sample), (r.readAll g).2) := by
  have hgather := r.gather_eq [] g
  rw [List.nil_append] at hgather
  exact congrArg (Prod.map (fun fs : List Family ↦ String.join (fs.map Family.text)) id) hgather

theorem shows_zipWith {metrics : List Config.Metric} {hs : List Live.Handles}
    (h : hs.length = metrics.length) {readings : List (Series × Int64)}
    (hreadings : readings.map Prod.fst = metrics.zipWith series hs) :
    List.Forall₂ Shows metrics (readings.map sample) := by
  induction metrics generalizing hs readings with
  | nil =>
    obtain rfl : readings = [] := by simpa using hreadings
    exact .nil
  | cons m rest ih =>
    cases hs with
    | nil => simp at h
    | cons handles others =>
      cases readings with
      | nil => simp at hreadings
      | cons p more =>
        obtain ⟨hfirst, hmore⟩ := List.cons.inj hreadings
        refine .cons ?_ (ih (Nat.succ.inj h) hmore)
        have hseries : p.1 = series m handles := hfirst
        constructor <;> simp [sample, hseries, series]

end Registry

open Live in
/-- All metrics of a generator are shown, in every state it can get into. -/
theorem render_exposes {ρ : Type} [Random.Rng ρ] {seeds : Random.Seeds} {config : Config}
    {g : Generator (Circuit ρ)} (h : Generator.ofConfig seeds config = .ok g) :
    ∃ r, Registry.ofMetrics config.metrics g = .ok r ∧ ∀ actions, ∃ samples,
      Exposes config.metrics samples (r.render (g.run actions)).1 := by
  obtain ⟨clockOf, hg⟩ := Generator.connected_of_config h
  refine ⟨_, Registry.ofMetrics_eq hg.size, fun actions ↦ ?_⟩
  rw [Registry.render_eq]
  refine ⟨_, ⟨Registry.shows_zipWith ?_ (Registry.readAll_fst _ _), text_eq_join_lines _⟩⟩
  rw [Array.length_toList, hg.size]

end TelemetrySim.Exposition

/-! ### A demonstration

The value of all metrics whose texts are looked at, as it is declared and as it is resolved. -/

namespace TelemetrySim.Demo

def toss : Decl.Value where
  source := some {
    kind := some "random_int"
    clock := some { kind := some "periodic", interval := some (.ofSeconds 1) } }

def tossed : Config.Value where
  source := { kind := "random_int", clock := some ⟨"periodic", .ofSeconds 1⟩ }

end TelemetrySim.Demo
