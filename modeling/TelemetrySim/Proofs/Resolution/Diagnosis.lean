import TelemetrySim.Proofs.Resolution.Way

/-!
Diagnoses. An error of resolving says what was looked up, what the name stands for instead and where
this was found. All of it is so in the expanded document: the tables that references are looked up
in have exactly the declarations of their kind once its phase is over (`Scope.Covers`), and the
trail is the way that building took through the references (`Mistake.explained`). So an error is
`Explained`, in every phase and whatever the error is (`Resolution.Raised.explained`).
-/

set_option autoImplicit false
set_option relaxedAutoImplicit false

namespace TelemetrySim

open Outcome
open Decl (Entry Section Document)
open Declared (name)

theorem Assoc.lookup_of_mem {α : Type} {l : List (String × α)} {key : String} {a : α}
    (hnodup : (keys l).Nodup) (h : (key, a) ∈ l) : l.lookup key = some a := by
  obtain ⟨b, hb⟩ := mem_keys_iff.mp (List.mem_map_of_mem (f := (·.1)) h)
  have hpair := List.inj_on_of_nodup_map hnodup (mem_of_lookup hb) h rfl
  rw [hb, (Prod.mk.inj hpair).2]

theorem Namespace.Holds.lookup_eq_some_iff {ns : Namespace} {l : List (String × Entity)}
    (h : ns.Holds l) {n : String} {e : Entity} : ns.lookup n = some e ↔ (n, e) ∈ l := by
  rw [Namespace.lookup, h.names_eq]
  exact ⟨Assoc.mem_of_lookup, Assoc.lookup_of_mem h.nodup_keys⟩

/-! ### Explained errors -/

/-- What is said of a name that is not found is true: it is not declared as what is wanted; what it
is said to be it is declared as, and that is something else; and this is said whenever the name is
declared as something of a kind that has had its phase or is in it. -/
structure Truthful (x : Document) (k : EntityKind) (wanted : Entity) (n : String)
    (actual : Option Entity) : Prop where
  absent : (n, wanted) ∉ x.claims
  other : ∀ e, actual = some e → (n, e) ∈ x.claims ∧ e ≠ wanted
  said : ∀ e, (n, e) ∈ x.claims → e.kind.rank ≤ k.rank → actual = some e

/-- If the problem is a name that is not found, then what is said of the name is true. -/
def Problem.Tells (x : Document) (k : EntityKind) (p : Problem) : Prop :=
  ∀ wanted n actual, p = .notFound wanted n actual → Truthful x k wanted n actual

/-- The error of a phase tells the truth, and it says by which way it was come across, unless it is
about templates that are based on each other. -/
structure Explained (x : Document) (k : EntityKind) (f : Failure) : Prop where
  tells : f.problem.Tells x k
  placed : (∀ kind names, f.problem ≠ .cycle kind names) → ∃ w : Way x, f.trail.reverse = w.frames

section

variable {x : Document} {k : EntityKind} {p : Problem}

theorem tells_of_ne (h : ∀ wanted n actual, p ≠ .notFound wanted n actual) : p.Tells x k :=
  fun wanted n actual hp ↦ absurd hp (h wanted n actual)

theorem tells_of_isLocal (h : p.isLocal) : p.Tells x k := by
  refine tells_of_ne fun wanted n actual hp ↦ ?_
  subst hp
  simp [Problem.isLocal] at h

/-- A problem at a declaration is explained if it tells the truth. -/
theorem explained_of_mem_claims {n : String} {e : Entity} (h : (n, e) ∈ x.claims)
    (hp : p.Tells x k) : Explained x k ⟨p, [e.frame n]⟩ where
  tells := hp
  placed _ := by
    obtain ⟨list, hentity, d, hd, rfl⟩ := Document.mem_claims_iff.mp h
    refine ⟨⟨list, d, [], hd, by simp, .nil, by simp⟩, ?_⟩
    rw [Way.frames, Section.frame, hentity]
    rfl

theorem tells_missing {ns : Namespace} (hns : ns.Holds (x.claimsUpTo k)) {wanted : Entity}
    {n : String} (h : (n, wanted) ∉ x.claims) : (ns.missing wanted n).Tells x k := by
  intro wanted' n' actual hp
  obtain ⟨rfl, rfl, rfl⟩ := Problem.notFound.inj hp
  obtain ⟨later, hsplit, hlater⟩ := x.claims_split k
  have hne : ∀ e, (n, e) ∈ x.claims → e ≠ wanted := fun e he heq ↦ h (heq ▸ he)
  refine ⟨h, fun e he ↦ ?_, fun e he hkind ↦ ?_⟩
  · have hmem := hns.lookup_eq_some_iff.mp (Option.filter_eq_some_iff.mp he).1
    have hclaimed : (n, e) ∈ x.claims := hsplit ▸ List.mem_append_left later hmem
    exact ⟨hclaimed, hne e hclaimed⟩
  · have hmem : (n, e) ∈ x.claimsUpTo k := by
      rw [hsplit] at he
      exact (List.mem_append.mp he).resolve_right fun hmem ↦ (hlater _ hmem).not_ge hkind
    exact Option.filter_eq_some_iff.mpr
      ⟨hns.lookup_eq_some_iff.mpr hmem, decide_eq_true (hne e he)⟩

end

/-! ### Mistakes -/

/-- What is declared of the kinds before a kind is known, and nothing else. -/
def Scope.Covers (s : Scope) (x : Document) (k : EntityKind) : Prop :=
  ∀ e : Entity, e.kind.rank < k.rank → ∀ n, n ∈ s.known e ↔ (n, e) ∈ x.claims

/-- Names that are claimed do not change what is known. -/
theorem Scope.Covers.claim {s : Scope} {x : Document} {k : EntityKind} (h : s.Covers x k)
    (names : Namespace) : Scope.Covers { s with names := names } x k := by
  rintro ⟨kind, o⟩ hrank n
  rw [← h ⟨kind, o⟩ hrank n]
  cases kind <;> rfl

theorem Decl.Entry.reverse_frames (e : Entry) :
    (e.templates.map frameOf).reverse = e.templates.map frameOf := by
  cases hbase : e.base? with
  | none => rw [templates_of_none hbase]; rfl
  | some n => rw [templates_of_some hbase]; rfl

/-- A mistake tells the truth, and its trail is that of nested references. -/
theorem Mistake.explained {x : Document} {k : EntityKind} {s : Scope} {e : Entry} {trail : Trail}
    {f : Failure} (h : Mistake s e trail f) (hnames : s.names.Holds (x.claimsUpTo k))
    (hcovers : s.Covers x k) (hkind : e.kind.rank ≤ k.rank) :
    f.problem.Tells x k ∧ ∃ route, Entry.Nested (e :: route) ∧
      (∀ p ∈ route.flatMap Entry.templates, p ∈ x.claims) ∧
      f.trail.reverse = trail.reverse ++ (route.flatMap Entry.templates).map frameOf := by
  -- Along the descent. A step inside puts the reference in front of the route, and the kinds that
  -- are still to come are earlier, so what is known of them is what is declared.
  induction h with
  | own hp => exact ⟨tells_of_isLocal hp, [], .singleton _, by simp, by simp⟩
  | @missing e r trail o n hr hn =>
    have hrank : r.kind.rank < k.rank := (Entry.rank_lt_of_mem_parts hr).trans_le hkind
    have hclaims : (n, ⟨r.kind, o⟩) ∉ x.claims := fun hmem ↦ hn ((hcovers _ hrank n).mpr hmem)
    exact ⟨tells_missing hnames hclaims, [], .singleton _, by simp, by simp⟩
  | @inside e r trail f hr hknown h ih =>
    have hrank : r.kind.rank < k.rank := (Entry.rank_lt_of_mem_parts hr).trans_le hkind
    obtain ⟨htells, route, hnested, hclaims, htrail⟩ := ih hrank.le
    refine ⟨htells, r :: route, hnested.cons_cons hr, ?_, ?_⟩
    · intro p hp
      rw [List.flatMap_cons] at hp
      rcases List.mem_append.mp hp with hp | hp
      · have hkind : p.2.kind.rank < k.rank := by rwa [Entry.kind_of_mem_templates hp]
        exact (hcovers _ hkind _).mp (hknown p hp)
      · exact hclaims p hp
    · rw [htrail, List.reverse_append, r.reverse_frames, List.flatMap_cons, List.map_append,
        List.append_assoc]

namespace Resolution

/-! ### Declarations -/

/-- The templates and the shared entities of a kind are the entries of their lists. -/
structure Declares {δ : Type} [Declared δ] (x : Document) (k : EntityKind) (entry : δ → Entry)
    (templates instances : List δ) : Prop where
  entries : ∀ o list, list.entity? = some ⟨k, o⟩ →
    x.entries list = (declarations templates instances o).map entry
  listed : ∀ o, declarations templates instances o ≠ [] →
    ∃ list : Section, list.entity? = some ⟨k, o⟩
  title : ∀ d, (entry d).title = name d

variable {δ ρ : Type} [Declared δ] {x : Document} {k : EntityKind} {o : Origin}
  {entry : δ → Entry} {templates instances : List δ} {d : δ} {s : Scope} {f : Failure}

namespace Declares

variable (h : Declares x k entry templates instances)

include h

theorem mem_claims_iff {n : String} :
    (n, ⟨k, o⟩) ∈ x.claims ↔ n ∈ (declarations templates instances o).map name := by
  rw [Document.mem_claims_iff, List.mem_map]
  constructor
  · rintro ⟨list, hentity, e, he, rfl⟩
    rw [h.entries o list hentity] at he
    obtain ⟨d, hd, rfl⟩ := List.mem_map.mp he
    exact ⟨d, hd, (h.title d).symm⟩
  · rintro ⟨d, hd, rfl⟩
    obtain ⟨list, hentity⟩ := h.listed o (List.ne_nil_of_mem hd)
    refine ⟨list, hentity, entry d, ?_, h.title d⟩
    rw [h.entries o list hentity]
    exact List.mem_map_of_mem hd

/-- A mistake on the trail of a declaration is explained. -/
theorem explained_of_mistake (hnames : s.names.Holds (x.claimsUpTo k)) (hcovers : s.Covers x k)
    (hd : d ∈ declarations templates instances o)
    (hf : Mistake s (entry d) (trailOf ⟨k, o⟩ d) f) : Explained x k f := by
  obtain ⟨list, hentity⟩ := h.listed o (List.ne_nil_of_mem hd)
  have hmem : entry d ∈ x.entries list := by
    rw [h.entries o list hentity]
    exact List.mem_map_of_mem hd
  have hframe : trailOf ⟨k, o⟩ d = [list.frame (entry d)] := by
    rw [Section.frame, hentity, h.title]
    rfl
  obtain ⟨hkind, hreferences⟩ := Document.kind_of_mem_entries hentity hmem
  obtain ⟨htells, route, hnested, hclaims, htrail⟩ :=
    hf.explained hnames hcovers (congrArg EntityKind.rank hkind).le
  refine ⟨htells, fun _ ↦ ⟨⟨list, entry d, route, hmem, ?_, hnested.tail, hclaims⟩, ?_⟩⟩
  · rw [hreferences]
    exact (List.isChain_cons.mp hnested).1
  · rw [htrail, hframe]
    rfl

end Declares

theorem declares_clocks :
    Declares x .clock .clock x.templates.clocks x.instances.clocks where
  entries o list h := by cases o <;> cases list <;> first | rfl | exact absurd h (by decide)
  listed o _ := by
    cases o with
    | template => exact ⟨.templateClocks, rfl⟩
    | shared => exact ⟨.instanceClocks, rfl⟩
  title _ := rfl

theorem declares_sources :
    Declares x .source .source x.templates.sources x.instances.sources where
  entries o list h := by cases o <;> cases list <;> first | rfl | exact absurd h (by decide)
  listed o _ := by
    cases o with
    | template => exact ⟨.templateSources, rfl⟩
    | shared => exact ⟨.instanceSources, rfl⟩
  title _ := rfl

theorem declares_values :
    Declares x .value .value x.templates.values x.instances.values where
  entries o list h := by cases o <;> cases list <;> first | rfl | exact absurd h (by decide)
  listed o _ := by
    cases o with
    | template => exact ⟨.templateValues, rfl⟩
    | shared => exact ⟨.instanceValues, rfl⟩
  title _ := rfl

theorem declares_metrics :
    Declares x .metric .metricTemplate x.templates.metrics [] where
  entries o list h := by cases o <;> cases list <;> first | rfl | exact absurd h (by decide)
  listed o h := by
    cases o with
    | template => exact ⟨.templateMetrics, rfl⟩
    | shared => exact absurd rfl h
  title _ := rfl

/-- What goes wrong with the declarations of a kind is explained. -/
theorem KindMistake.explained (h : KindMistake s k entry templates instances f)
    (hdeclares : Declares x k entry templates instances)
    (hnames : s.names.Holds (x.claimsUpTo k)) (hcovers : s.Covers x k) : Explained x k f := by
  cases h with
  | inside hd h => exact hdeclares.explained_of_mistake hnames hcovers hd h
  | baseless hd hn =>
    refine explained_of_mem_claims (hdeclares.mem_claims_iff.mpr (List.mem_map_of_mem hd)) ?_
    exact tells_missing hnames fun hmem ↦ hn (hdeclares.mem_claims_iff.mp hmem)
  | cycle => exact ⟨tells_of_ne fun _ _ _ ↦ Problem.noConfusion, fun h ↦ absurd rfl (h _ _)⟩

/-- The tables of a kind have what is declared of the kind. -/
theorem ResolvedKind.mem_names_iff {build : Build δ ρ} {t : Tables ρ}
    (h : ResolvedKind k build templates instances t)
    (hdeclares : Declares x k entry templates instances) (o : Origin) (n : String) :
    n ∈ t.names o ↔ (n, ⟨k, o⟩) ∈ x.claims := by
  rw [hdeclares.mem_claims_iff]
  cases o with
  | template => exact h.bases.mem_keys_iff
  | shared =>
    rw [Tables.names, h.shared.keys_eq]
    rfl

/-! ### Metrics -/

theorem explained_of_mem_metrics {m : Decl.Metric} (hm : m ∈ x.metrics) {p : Problem}
    (hp : p.Tells x k) : Explained x k ⟨p, Scope.metricTrail m⟩ where
  tells := hp
  placed _ := ⟨⟨.metrics, .metric m, [], List.mem_map_of_mem hm, by simp, .nil, by simp⟩, rfl⟩

/-- What goes wrong with a metric is explained. -/
theorem MetricMistake.explained {m : Decl.Metric} (h : MetricMistake s x.templates.metrics m f)
    (hm : m ∈ x.metrics) (hnames : s.names.Holds (x.claimsUpTo .metric))
    (hcovers : s.Covers x .metric) : Explained x .metric f := by
  have hclaim : ∀ n, (n, ⟨.metric, .template⟩) ∈ x.claims ↔ n ∈ x.templates.metrics.map name :=
    fun n ↦ declares_metrics.mem_claims_iff
  cases h with
  | own hp => exact explained_of_mem_metrics hm (tells_of_isLocal hp)
  | missing hn =>
    exact explained_of_mem_metrics hm (tells_missing hnames fun hmem ↦ hn ((hclaim _).mp hmem))
  | inside hknown h =>
    obtain ⟨htells, route, hnested, hclaims, htrail⟩ := h.explained hnames hcovers le_rfl
    refine ⟨htells, fun _ ↦ ⟨⟨.metrics, .metric m, .metric m :: route,
      List.mem_map_of_mem hm, by simp [Entry.references], hnested, ?_⟩, ?_⟩⟩
    · intro p hp
      rw [List.flatMap_cons] at hp
      rcases List.mem_append.mp hp with hp | hp
      · have hbase := hknown p hp
        obtain ⟨n, -, rfl⟩ := List.mem_map.mp hp
        exact (hclaim n).mpr hbase
      · exact hclaims p hp
    · rw [htrail, List.reverse_append, Entry.reverse_frames, List.append_assoc,
        ← List.map_append]
      rfl

/-! ### Phases -/

/-- What goes wrong in a phase is explained if it is explained once the names are claimed. -/
theorem PhaseMistake.explained {ns : Namespace} {before : List (String × Entity)}
    {E : Namespace → Failure → Prop} (h : PhaseMistake k templates instances ns E f)
    (hns : ns.Holds before) (hall : before ++ claims k templates instances = x.claimsUpTo k)
    (hE : ∀ ns', ns'.Holds (x.claimsUpTo k) → ∀ f, E ns' f → Explained x k f) :
    Explained x k f := by
  cases h with
  | clash h =>
    obtain ⟨c, ⟨front, back, hsplit, -, -⟩, rfl⟩ := register_error hns h
    obtain ⟨later, hlater, -⟩ := x.claims_split k
    have hmem : (c.name, c.entity) ∈ x.claims := by
      rw [hlater, ← hall, hsplit]
      simp
    exact explained_of_mem_claims hmem (tells_of_ne fun _ _ _ ↦ Problem.noConfusion)
  | later hclaimed h => exact hE _ (hall ▸ register_ok hns hclaimed) f h

section Run

theorem clockPhase_explained :
    Blames (Explained x .clock) (clockPhase x.templates.clocks x.instances.clocks {}) := by
  refine (clockPhase_mistake (s := {}) List.nodup_nil).mono fun _ hf ↦
    hf.explained ⟨rfl, List.nodup_nil⟩ rfl fun names hnames _ h ↦ ?_
  exact h.explained declares_clocks hnames fun _ hrank ↦ absurd hrank (Nat.not_lt_zero _)

variable {t u : Scope} (hclocks : clockPhase x.templates.clocks x.instances.clocks {} = .ok s)

include hclocks

theorem covers_source : s.Covers x .source := by
  obtain ⟨-, hresolved⟩ := clockPhase_ok (s := {}) List.nodup_nil hclocks
  rintro ⟨kind, o⟩ hrank n
  cases kind with
  | clock => exact hresolved.mem_names_iff declares_clocks o n
  | source => exact absurd hrank (lt_irrefl _)
  | value => exact absurd hrank (by simp [EntityKind.rank])
  | metric => exact absurd hrank (by simp [EntityKind.rank])

theorem sourcePhase_explained :
    Blames (Explained x .source) (sourcePhase x.templates.sources x.instances.sources s) := by
  have hs := holds_clock hclocks
  refine (sourcePhase_mistake hs.nodup).mono fun _ hf ↦
    hf.explained hs rfl fun names hnames _ h ↦ ?_
  exact h.explained declares_sources hnames ((covers_source hclocks).claim names)

variable (hsources : sourcePhase x.templates.sources x.instances.sources s = .ok t)

include hsources

theorem covers_value : t.Covers x .value := by
  have hs : s.names.claimed.Nodup := (holds_clock hclocks).nodup
  obtain ⟨-, hkept, hresolved⟩ := sourcePhase_ok hs hsources
  rintro ⟨kind, o⟩ hrank n
  cases kind with
  | clock =>
    show n ∈ t.clocks.names o ↔ _
    rw [hkept]
    exact covers_source hclocks ⟨.clock, o⟩ Nat.zero_lt_one n
  | source => exact hresolved.mem_names_iff declares_sources o n
  | value => exact absurd hrank (lt_irrefl _)
  | metric => exact absurd hrank (by simp [EntityKind.rank])

theorem valuePhase_explained :
    Blames (Explained x .value) (valuePhase x.templates.values x.instances.values t) := by
  have ht := holds_source hclocks hsources
  refine (valuePhase_mistake ht.nodup).mono fun _ hf ↦
    hf.explained ht rfl fun names hnames _ h ↦ ?_
  exact h.explained declares_values hnames ((covers_value hclocks hsources).claim names)

variable (hvalues : valuePhase x.templates.values x.instances.values t = .ok u)

include hvalues

theorem covers_metric : u.Covers x .metric := by
  have ht : t.names.claimed.Nodup := (holds_source hclocks hsources).nodup
  obtain ⟨-, hclocksKept, hsourcesKept, hresolved⟩ := valuePhase_ok ht hvalues
  rintro ⟨kind, o⟩ hrank n
  cases kind with
  | clock =>
    show n ∈ u.clocks.names o ↔ _
    rw [hclocksKept]
    exact covers_value hclocks hsources ⟨.clock, o⟩ Nat.zero_lt_two n
  | source =>
    show n ∈ u.sources.names o ↔ _
    rw [hsourcesKept]
    exact covers_value hclocks hsources ⟨.source, o⟩ Nat.one_lt_two n
  | value => exact hresolved.mem_names_iff declares_values o n
  | metric => exact absurd hrank (lt_irrefl _)

theorem metricPhase_explained :
    Blames (Explained x .metric) (metricPhase x.templates.metrics x.metrics u) := by
  have hu := holds_value hclocks hsources hvalues
  refine (metricPhase_mistake hu.nodup).mono fun _ hf ↦
    hf.explained hu rfl fun names hnames _ h ↦ ?_
  have hcovers := (covers_metric hclocks hsources hvalues).claim names
  rcases h with h | ⟨m, hm, h⟩
  · exact h.explained declares_metrics hnames hcovers
  · exact h.explained hm hnames hcovers

end Run

/-- Whatever goes wrong in a phase, the error is explained. -/
theorem Raised.explained {f : Failure} (h : Raised x k f) : Explained x k f := by
  cases h with
  | clock h => exact clockPhase_explained f h
  | source hclocks h => exact sourcePhase_explained hclocks f h
  | value hclocks hsources h => exact valuePhase_explained hclocks hsources f h
  | metric hclocks hsources hvalues h => exact metricPhase_explained hclocks hsources hvalues f h

end Resolution

open Resolution

/-- The trail of an error is a way through the references of the expanded document, from a
declaration or a metric on. -/
theorem Decl.Document.trail_follows_way {d x : Document} {k : EntityKind} {f : Failure}
    (hexpand : d.expand = .ok x) (h : Raised x k f)
    (hcycle : ∀ kind names, f.problem ≠ .cycle kind names) :
    d.compile = .error (.unresolved f) ∧ ∃ w : Way x,
      f.trail.reverse = w.list.frame w.entry :: w.templates.map frameOf ∧
      ((∃ p ∈ x.claims, w.list.frame w.entry = frameOf p) ∨
        ∃ m ∈ x.metrics, w.list.frame w.entry = ⟨"metric", m.name.prometheus⟩) ∧
      (∀ p ∈ w.templates, p ∈ x.claims) ∧
      (w.templates.map (·.2)).Sublist
        [⟨.metric, .template⟩, ⟨.value, .template⟩, ⟨.source, .template⟩, ⟨.clock, .template⟩] ∧
      f.trail.length ≤ 5 := by
  obtain ⟨w, hw⟩ := h.explained.placed hcycle
  have hlength : f.trail.length ≤ 5 := by
    rw [← List.length_reverse, hw]
    exact w.length_frames_le
  exact ⟨compile_eq_unresolved_iff.mpr ⟨x, hexpand, h.resolve_eq⟩, w, hw, w.start_frame,
    w.declared, w.templates_sublist, hlength⟩

/-! ### A demonstration -/

namespace Demo

/-- A metric that refers to templates of every kind and stops its clock. -/
def entangled : Document where
  templates := {
    clocks := [{ name := some "ct", kind := some "periodic", interval := some (.ofSeconds 1) }]
    sources := [{ name := some "st", kind := some "random_int" }]
    values := [{ name := some "vt", source := some { templateName := some "st" }
                 clock := some { templateName := some "ct" } }]
    metrics := [{ name := some "mt", kind := some "gauge" }] }
  metrics := [{
    name := .same "deep", templateName := some "mt", description := some "Deep"
    value := some {
      templateName := some "vt"
      source := some {
        templateName := some "st"
        clock := some { templateName := some "ct", interval := some (.ofSeconds 0) } } } }]

def entangledFailure : Failure where
  problem := .clockIntervalZero
  trail := [⟨"clock template", "ct"⟩, ⟨"source template", "st"⟩, ⟨"value template", "vt"⟩,
    ⟨"metric template", "mt"⟩, ⟨"metric", "deep"⟩]

/-- The error of the clock is met behind all four templates. -/
theorem entangled_follows_way :
    (entangled.expand = .ok entangled ∧ Raised entangled .metric entangledFailure ∧
        ∀ kind names, entangledFailure.problem ≠ .cycle kind names) ∧
      entangled.compile = .error (.unresolved entangledFailure) ∧ ∃ w : Way entangled,
        entangledFailure.trail.reverse = w.list.frame w.entry :: w.templates.map frameOf ∧
        ((∃ p ∈ entangled.claims, w.list.frame w.entry = frameOf p) ∨
          ∃ m ∈ entangled.metrics, w.list.frame w.entry = ⟨"metric", m.name.prometheus⟩) ∧
        (∀ p ∈ w.templates, p ∈ entangled.claims) ∧
        (w.templates.map (·.2)).Sublist
          [⟨.metric, .template⟩, ⟨.value, .template⟩, ⟨.source, .template⟩, ⟨.clock, .template⟩] ∧
        entangledFailure.trail.length ≤ 5 := by
  have hexpand : entangled.expand = .ok entangled := by with_unfolding_all rfl
  have hresolve : Config.resolve entangled = .error entangledFailure := by with_unfolding_all rfl
  have hraised : Raised entangled .metric entangledFailure :=
    raised_iff.mpr ⟨hresolve, .inr ⟨_, rfl, by decide⟩⟩
  have hcycle : ∀ kind names, entangledFailure.problem ≠ .cycle kind names :=
    fun _ _ ↦ Problem.noConfusion
  exact ⟨⟨hexpand, hraised, hcycle⟩, Document.trail_follows_way hexpand hraised hcycle⟩

end Demo

end TelemetrySim
