import Mathlib.Data.List.Infix
import TelemetrySim.Proofs.Resolution.PhaseOrder

/-!
One flat set of names. In the order of the phases, all templates and shared entities of an expanded
document claim their names (`Decl.Document.claims`), and whether a name is free hangs on what was
claimed before, of whatever kind. So a run finds the first name of the list that repeats an earlier
one (`FirstClash`), unless something else is wrong with an earlier kind, and if no name repeats it
finds none (`Decl.Document.oneNamespace`). Names are compared as they are after the expansion, in
which different placeholders may have made one name out of two.
-/

set_option autoImplicit false
set_option relaxedAutoImplicit false

namespace TelemetrySim

open Outcome
open Declared (name)

/-! ### The first clash -/

/-- The first entry that has the name of an earlier one, which holds the name. -/
def FirstClash (l : List (String × Entity)) (c : NameClash) : Prop :=
  ∃ before after, l = before ++ (c.name, c.entity) :: after ∧ (Assoc.keys before).Nodup ∧
    before.lookup c.name = some c.holder

/-- The error for a clash, on the trail of the entity that comes second. -/
def NameClash.failure (c : NameClash) : Failure := ⟨.nameClash c, [c.entity.frame c.name]⟩

theorem Assoc.nodup_keys_concat {α : Type} {l : List (String × α)} {key : String} {a : α} :
    (keys (l ++ [(key, a)])).Nodup ↔ (keys l).Nodup ∧ key ∉ keys l := by
  rw [keys, List.map_append, List.map_singleton, ← List.concat_eq_append, List.nodup_concat,
    and_comm]
  rfl

theorem Assoc.nodup_keys_of_prefix {α : Type} {l l' : List (String × α)} (h : l <+: l')
    (hnodup : (keys l').Nodup) : (keys l).Nodup :=
  hnodup.sublist (h.sublist.map _)

section

variable {l l' before : List (String × Entity)} {c c' : NameClash}

theorem not_nodup_clash {e : Entity} {n : String} {holder : Entity}
    (h : before.lookup n = some holder) : ¬ (Assoc.keys (before ++ [(n, e)])).Nodup := by
  rw [Assoc.nodup_keys_concat]
  exact fun hnodup ↦ hnodup.2 (Assoc.mem_keys_iff.mpr ⟨holder, h⟩)

theorem FirstClash.not_nodup (h : FirstClash l c) : ¬ (Assoc.keys l).Nodup := by
  obtain ⟨before, after, rfl, -, hholder⟩ := h
  intro hnodup
  rw [List.append_cons] at hnodup
  exact not_nodup_clash hholder (Assoc.nodup_keys_of_prefix (List.prefix_append _ _) hnodup)

theorem FirstClash.append (h : FirstClash l c) (l' : List (String × Entity)) :
    FirstClash (l ++ l') c := by
  obtain ⟨before, after, rfl, hnodup, hholder⟩ := h
  exact ⟨before, after ++ l', by simp, hnodup, hholder⟩

theorem exists_firstClash (h : ¬ (Assoc.keys l).Nodup) : ∃ c, FirstClash l c := by
  induction l using List.reverseRecOn with
  | nil => exact absurd List.nodup_nil h
  | append_singleton l p ih =>
    obtain ⟨n, e⟩ := p
    by_cases hnodup : (Assoc.keys l).Nodup
    · have hmem : n ∈ Assoc.keys l := by
        by_contra hfresh
        exact h (Assoc.nodup_keys_concat.mpr ⟨hnodup, hfresh⟩)
      obtain ⟨holder, hholder⟩ := Assoc.mem_keys_iff.mp hmem
      exact ⟨⟨n, holder, e⟩, l, [], rfl, hnodup, hholder⟩
    · obtain ⟨c, hc⟩ := ih hnodup
      exact ⟨c, hc.append [(n, e)]⟩

/-- What comes without a clash comes before the first one. -/
theorem prefix_of_nodup {after : List (String × Entity)}
    (hl : l = before ++ (c.name, c.entity) :: after)
    (hholder : before.lookup c.name = some c.holder) (hbegins : l' <+: l)
    (hnodup : (Assoc.keys l').Nodup) : l' <+: before := by
  have hclash : before ++ [(c.name, c.entity)] <+: l := ⟨after, by simp [hl]⟩
  rcases List.prefix_or_prefix_of_prefix hbegins hclash with h | h
  · rcases List.prefix_concat_iff.mp h with rfl | h
    · exact absurd hnodup (not_nodup_clash hholder)
    · exact h
  · exact absurd (Assoc.nodup_keys_of_prefix h hnodup) (not_nodup_clash hholder)

theorem FirstClash.unique (h : FirstClash l c) (h' : FirstClash l c') : c = c' := by
  obtain ⟨before, after, hl, hnodup, hholder⟩ := h
  obtain ⟨before', after', hl', hnodup', hholder'⟩ := h'
  have hle : before <+: before' := prefix_of_nodup hl' hholder' ⟨_, hl.symm⟩ hnodup
  have hge : before' <+: before := prefix_of_nodup hl hholder ⟨_, hl'.symm⟩ hnodup'
  obtain rfl : before = before' := hle.eq_of_length_le hge.length_le
  obtain ⟨hentry, -⟩ := List.cons.inj (List.append_cancel_left (hl.symm.trans hl'))
  obtain ⟨hname, hentity⟩ := Prod.mk.inj hentry
  rw [← hname, hholder] at hholder'
  cases c
  cases c'
  simp_all

/-- A clash that a part without clashes leaves open is one with a later entry. -/
theorem FirstClash.mem_right (h : FirstClash (l ++ l') c) (hnodup : (Assoc.keys l).Nodup) :
    (c.name, c.entity) ∈ l' := by
  obtain ⟨before, after, hl, -, hholder⟩ := h
  obtain ⟨rest, rfl⟩ := prefix_of_nodup hl hholder (List.prefix_append l l') hnodup
  rw [List.append_assoc] at hl
  rw [List.append_cancel_left hl]
  simp

end

/-! ### Claims -/

/-- The names that are taken are those of the list, each of them once. -/
structure Namespace.Holds (ns : Namespace) (l : List (String × Entity)) : Prop where
  names_eq : ns.names = l
  nodup : ns.claimed.Nodup

theorem Namespace.Holds.nodup_keys {ns : Namespace} {l : List (String × Entity)}
    (h : ns.Holds l) : (Assoc.keys l).Nodup := by
  rw [← h.names_eq]
  exact h.nodup

namespace Resolution

variable {δ : Type} [Declared δ]

/-- What the templates and the shared entities of a kind claim. -/
def claims (kind : EntityKind) (templates instances : List δ) : List (String × Entity) :=
  (templates.map fun d ↦ (name d, ⟨kind, .template⟩)) ++
    instances.map fun d ↦ (name d, ⟨kind, .shared⟩)

variable {kind : EntityKind} {templates instances : List δ} {ns ns' : Namespace} {f : Failure}

theorem kind_of_mem_claims {p : String × Entity} (h : p ∈ claims kind templates instances) :
    p.2.kind = kind := by
  rcases List.mem_append.mp h with h | h
  · obtain ⟨d, -, rfl⟩ := List.mem_map.mp h
    rfl
  · obtain ⟨d, -, rfl⟩ := List.mem_map.mp h
    rfl

theorem registerAll_error {e : Entity} {ds : List δ} (hns : ns.claimed.Nodup)
    (h : registerAll e ds ns = .error f) :
    ∃ c, FirstClash (ns.names ++ ds.map fun d ↦ (name d, e)) c ∧ f = c.failure := by
  induction ds generalizing ns with
  | nil => simp [registerAll, pure, Except.pure] at h
  | cons d rest ih =>
    rw [registerAll, List.foldlM_cons] at h
    rcases bind_eq_error_iff.mp h with hclash | ⟨next, hnext, hrest⟩
    · obtain ⟨c, hregister, rfl⟩ := mapError_eq_error_iff.mp hclash
      obtain ⟨holder, hholder, rfl⟩ := Namespace.register_eq_error_iff.mp hregister
      exact ⟨⟨name d, holder, e⟩, ⟨ns.names, _, rfl, hns, hholder⟩, rfl⟩
    · obtain ⟨hfresh, rfl⟩ := Namespace.register_eq_ok_iff.mp (mapError_eq_ok_iff.mp hnext)
      have hnodup : (Assoc.keys (ns.names ++ [(name d, e)])).Nodup :=
        Assoc.nodup_keys_concat.mpr ⟨hns, hfresh⟩
      obtain ⟨c, hc, rfl⟩ := ih hnodup hrest
      rw [List.append_assoc] at hc
      exact ⟨c, hc, rfl⟩

variable {before : List (String × Entity)}

theorem register_ok (hns : ns.Holds before)
    (h : register kind templates instances ns = .ok ns') :
    ns'.Holds (before ++ claims kind templates instances) := by
  obtain rfl := hns.names_eq
  obtain ⟨-, rfl⟩ := (register_eq_ok_iff hns.nodup).mp h
  exact ⟨rfl, (claimed_register hns.nodup h).2⟩

theorem register_error (hns : ns.Holds before)
    (h : register kind templates instances ns = .error f) :
    ∃ c, FirstClash (before ++ claims kind templates instances) c ∧ f = c.failure := by
  obtain rfl := hns.names_eq
  rw [claims, ← List.append_assoc]
  rcases bind_eq_error_iff.mp h with htemplates | ⟨middle, hmiddle, hinstances⟩
  · obtain ⟨c, hc, rfl⟩ := registerAll_error hns.nodup htemplates
    exact ⟨c, hc.append _, rfl⟩
  · obtain ⟨hnodup, rfl⟩ := (registerAll_eq_ok_iff hns.nodup).mp hmiddle
    refine registerAll_error ?_ hinstances
    simpa [Namespace.claimed, Assoc.keys, Function.comp_def] using hnodup

/-- A phase fails at the first clash, or it has claimed all names of its kind. -/
theorem PhaseFails.claims (h : PhaseFails kind templates instances ns f) (hns : ns.Holds before) :
    (∃ c, FirstClash (before ++ claims kind templates instances) c ∧ f = c.failure) ∨
      (Assoc.keys (before ++ claims kind templates instances)).Nodup ∧
        f.problem.isClash = false := by
  cases h with
  | clash h => exact .inl (register_error hns h)
  | later h _ hother => exact .inr ⟨(register_ok hns h).nodup_keys, hother⟩

/-! ### Phases -/

section Phases

variable {s t : Scope} (hs : s.names.Holds before)

include hs

theorem clockPhase_claims {templates instances : List Decl.Clock}
    (h : clockPhase templates instances s = .ok t) :
    t.names.Holds (before ++ claims .clock templates instances) := by
  obtain ⟨names, hnames, h⟩ := bind_eq_ok_iff.mp h
  obtain ⟨clocks, -, h⟩ := bind_eq_ok_iff.mp h
  obtain rfl := Except.ok.inj h
  exact register_ok hs hnames

theorem sourcePhase_claims {templates instances : List Decl.Source}
    (h : sourcePhase templates instances s = .ok t) :
    t.names.Holds (before ++ claims .source templates instances) := by
  obtain ⟨names, hnames, h⟩ := bind_eq_ok_iff.mp h
  obtain ⟨sources, -, h⟩ := bind_eq_ok_iff.mp h
  obtain rfl := Except.ok.inj h
  exact register_ok hs hnames

theorem valuePhase_claims {templates instances : List Decl.Value}
    (h : valuePhase templates instances s = .ok t) :
    t.names.Holds (before ++ claims .value templates instances) := by
  obtain ⟨names, hnames, h⟩ := bind_eq_ok_iff.mp h
  obtain ⟨values, -, h⟩ := bind_eq_ok_iff.mp h
  obtain rfl := Except.ok.inj h
  exact register_ok hs hnames

theorem metricPhase_claims {templates : List Decl.MetricTemplate} {ms : List Decl.Metric}
    {metrics : List Config.Metric} (h : metricPhase templates ms s = .ok metrics) :
    (Assoc.keys (before ++ claims .metric templates [])).Nodup := by
  obtain ⟨names, hnames, -⟩ := bind_eq_ok_iff.mp h
  exact (register_ok hs hnames).nodup_keys

end Phases

end Resolution

/-! ### Documents -/

/-- The kinds whose phases come after that of a kind. -/
def EntityKind.later : EntityKind → List EntityKind
  | clock => [source, value, metric]
  | source => [value, metric]
  | value => [metric]
  | metric => []

theorem EntityKind.rank_lt_of_mem_later {k k' : EntityKind} (h : k' ∈ k.later) :
    k.rank < k'.rank := by
  have hall : ∀ k' ∈ k.later, k.rank < k'.rank := by cases k <;> decide
  exact hall k' h

namespace Decl.Document

open Resolution

/-- What the declarations of a kind claim. -/
def claimsOf (x : Document) : EntityKind → List (String × Entity)
  | .clock => Resolution.claims .clock x.templates.clocks x.instances.clocks
  | .source => Resolution.claims .source x.templates.sources x.instances.sources
  | .value => Resolution.claims .value x.templates.values x.instances.values
  | .metric => Resolution.claims .metric x.templates.metrics []

/-- What the declarations of a kind and of all earlier ones claim, in the order of the phases. -/
def claimsUpTo (x : Document) : EntityKind → List (String × Entity)
  | .clock => x.claimsOf .clock
  | .source => x.claimsOf .clock ++ x.claimsOf .source
  | .value => x.claimsOf .clock ++ x.claimsOf .source ++ x.claimsOf .value
  | .metric => x.claimsOf .clock ++ x.claimsOf .source ++ x.claimsOf .value ++ x.claimsOf .metric

/-- All names that an expanded document declares, with what they stand for. -/
def claims (x : Document) : List (String × Entity) := x.claimsUpTo .metric

theorem kind_of_mem_claimsOf {x : Document} {k : EntityKind} {p : String × Entity}
    (h : p ∈ x.claimsOf k) : p.2.kind = k := by
  cases k with
  | clock => exact kind_of_mem_claims h
  | source => exact kind_of_mem_claims h
  | value => exact kind_of_mem_claims h
  | metric => exact kind_of_mem_claims h

/-- What is claimed after the phase of a kind is claimed for later kinds. -/
theorem claims_split (x : Document) (k : EntityKind) : ∃ later,
    x.claims = x.claimsUpTo k ++ later ∧ ∀ p ∈ later, k.rank < p.2.kind.rank := by
  refine ⟨k.later.flatMap x.claimsOf, ?_, fun p hp ↦ ?_⟩
  · cases k <;> simp [claims, claimsUpTo, EntityKind.later]
  · obtain ⟨k', hk', hp⟩ := List.mem_flatMap.mp hp
    rw [kind_of_mem_claimsOf hp]
    exact k.rank_lt_of_mem_later hk'

end Decl.Document

namespace Resolution

variable {x : Decl.Document} {k : EntityKind} {f : Failure} {s t u : Scope}

/-! ### The run -/

section Run

variable (hclocks : clockPhase x.templates.clocks x.instances.clocks {} = .ok s)

include hclocks

theorem holds_clock : s.names.Holds (x.claimsUpTo .clock) :=
  clockPhase_claims (s := {}) ⟨rfl, List.nodup_nil⟩ hclocks

variable (hsources : sourcePhase x.templates.sources x.instances.sources s = .ok t)

include hsources

theorem holds_source : t.names.Holds (x.claimsUpTo .source) :=
  sourcePhase_claims (holds_clock hclocks) hsources

variable (hvalues : valuePhase x.templates.values x.instances.values t = .ok u)

include hvalues

theorem holds_value : u.names.Holds (x.claimsUpTo .value) :=
  valuePhase_claims (holds_source hclocks hsources) hvalues

end Run

/-- A phase that ends with an error has met the first clash of what was claimed so far, or there is
none and something else is wrong. -/
theorem Raised.claims (h : Raised x k f) :
    (∃ c, FirstClash (x.claimsUpTo k) c ∧ f = c.failure) ∨
      (Assoc.keys (x.claimsUpTo k)).Nodup ∧ f.problem.isClash = false := by
  cases h with
  | clock h => exact (clockPhase_fails (s := {}) List.nodup_nil f h).claims ⟨rfl, List.nodup_nil⟩
  | source hclocks h =>
    have hs := holds_clock hclocks
    exact (sourcePhase_fails hs.nodup f h).claims hs
  | value hclocks hsources h =>
    have ht := holds_source hclocks hsources
    exact (valuePhase_fails ht.nodup f h).claims ht
  | metric hclocks hsources hvalues h =>
    have hu := holds_value hclocks hsources hvalues
    exact (metricPhase_fails hu.nodup f h).claims hu

/-- A run gets through all phases only if no name is claimed twice. -/
theorem nodup_claims_or_raised (x : Decl.Document) :
    (Assoc.keys x.claims).Nodup ∨ ∃ k f, Raised x k f := by
  cases hclocks : clockPhase x.templates.clocks x.instances.clocks {} with
  | error f => exact .inr ⟨_, f, .clock hclocks⟩
  | ok s =>
    cases hsources : sourcePhase x.templates.sources x.instances.sources s with
    | error f => exact .inr ⟨_, f, .source hclocks hsources⟩
    | ok t =>
      cases hvalues : valuePhase x.templates.values x.instances.values t with
      | error f => exact .inr ⟨_, f, .value hclocks hsources hvalues⟩
      | ok u =>
        cases hmetrics : metricPhase x.templates.metrics x.metrics u with
        | error f => exact .inr ⟨_, f, .metric hclocks hsources hvalues hmetrics⟩
        | ok metrics =>
          exact .inl (metricPhase_claims (holds_value hclocks hsources hvalues) hmetrics)

theorem nodup_claims_of_resolve {config : Config} (h : Config.resolve x = .ok config) :
    (Assoc.keys x.claims).Nodup := by
  refine (nodup_claims_or_raised x).resolve_right ?_
  rintro ⟨k, f, hraised⟩
  simp [hraised.resolve_eq] at h

/-- If a name is claimed twice, the run ends with the first clash or with something that is wrong
with an earlier kind. -/
theorem raised_of_not_nodup (h : ¬ (Assoc.keys x.claims).Nodup) :
    ∃ c f, FirstClash x.claims c ∧ Config.resolve x = .error f ∧
      (f = c.failure ∨ ∃ k, k.rank < c.entity.kind.rank ∧ f.About k) := by
  obtain ⟨k, f, hraised⟩ := (nodup_claims_or_raised x).resolve_left h
  obtain ⟨later, hsplit, hlater⟩ := x.claims_split k
  obtain ⟨c, hc⟩ := exists_firstClash h
  refine ⟨c, f, hc, hraised.resolve_eq, ?_⟩
  rw [hsplit] at hc
  rcases hraised.claims with ⟨c', hc', hf⟩ | ⟨hnodup, -⟩
  · rw [hc.unique (hc'.append later)]
    exact .inl hf
  · exact .inr ⟨k, hlater _ (hc.mem_right hnodup), hraised.about⟩

/-- An error about a clash is the first one. -/
theorem firstClash_of_resolve {c : NameClash} {trail : Trail}
    (h : Config.resolve x = .error ⟨.nameClash c, trail⟩) :
    FirstClash x.claims c ∧ trail = [c.entity.frame c.name] := by
  rcases raised_or_outer h with ⟨k, hraised⟩ | ⟨-, hother⟩
  · rcases hraised.claims with ⟨c', hc', hf⟩ | ⟨-, hother⟩
    · obtain ⟨hproblem, htrail⟩ := Located.mk.inj hf
      obtain rfl := Problem.nameClash.inj hproblem
      obtain ⟨later, hsplit, -⟩ := x.claims_split k
      rw [hsplit]
      exact ⟨hc'.append later, htrail⟩
    · simp [Problem.isClash] at hother
  · simp [Problem.isLocal] at hother

theorem Lists.keys_eq {δ ρ : Type} [Declared δ] {kind : EntityKind} {build : Build δ ρ}
    {templates instances : List δ} {table : List (String × ρ)}
    (h : Lists kind build templates instances table) :
    Assoc.keys table = instances.map name := by
  induction h with
  | nil => rfl
  | cons hp _ ih => exact congrArg₂ List.cons hp.1 ih

end Resolution

/-- A document is expanded before it is resolved. -/
theorem Decl.Document.compile_eq_unresolved_iff {d : Decl.Document} {f : Failure} :
    d.compile = .error (.unresolved f) ↔ ∃ x, d.expand = .ok x ∧ Config.resolve x = .error f := by
  have hexpansion : ∀ e, ¬ CompileError.ofExpansion e = .unresolved f := by
    intro e
    cases e <;> simp [CompileError.ofExpansion]
  rw [compile, bind_eq_error_iff]
  simp only [mapError_eq_error_iff, mapError_eq_ok_iff, resolved, hexpansion, and_false,
    exists_false, false_or, CompileError.unresolved.injEq, exists_eq_right]

open Resolution

/-- The names of a document form one flat set. -/
structure Decl.Document.OneNamespace (d : Decl.Document) : Prop where
  /-- What compiles declares no name twice, and its shared entities are listed under their names, in
  the order of their declarations. -/
  compiled : ∀ config, d.compile = .ok config → ∃ x, d.expand = .ok x ∧
    (Assoc.keys x.claims).Nodup ∧
      Assoc.keys config.instances.clocks = x.instances.clocks.map name ∧
      Assoc.keys config.instances.sources = x.instances.sources.map name ∧
      Assoc.keys config.instances.values = x.instances.values.map name
  /-- What declares a name twice does not compile: the error is the first clash, or something that
  is wrong with an earlier kind. -/
  repeated : ∀ x, d.expand = .ok x → ¬ (Assoc.keys x.claims).Nodup →
    ∃ c f, FirstClash x.claims c ∧ d.compile = .error (.unresolved f) ∧
      (f = c.failure ∨ ∃ k, k.rank < c.entity.kind.rank ∧ f.About k)
  /-- What declares no name twice meets no clash. -/
  distinct : ∀ x, d.expand = .ok x → (Assoc.keys x.claims).Nodup →
    ∀ c trail, d.compile ≠ .error (.unresolved ⟨.nameClash c, trail⟩)
  /-- An error about a clash names the first one. -/
  clash : ∀ c trail, d.compile = .error (.unresolved ⟨.nameClash c, trail⟩) →
    ∃ x, d.expand = .ok x ∧ FirstClash x.claims c ∧ trail = [c.entity.frame c.name]

theorem Decl.Document.oneNamespace (d : Decl.Document) : d.OneNamespace where
  compiled config h := by
    obtain ⟨x, hx, hresolve⟩ := compile_eq_ok_iff.mp h
    obtain ⟨s, bases, hsettled⟩ := settled_of_resolve hresolve
    refine ⟨x, hx, nodup_claims_of_resolve hresolve, ?_⟩
    rw [hsettled.instances]
    exact ⟨hsettled.clocks.shared.keys_eq, hsettled.sources.shared.keys_eq,
      hsettled.values.shared.keys_eq⟩
  repeated x hx h := by
    obtain ⟨c, f, hc, hresolve, hf⟩ := raised_of_not_nodup h
    exact ⟨c, f, hc, compile_eq_unresolved_iff.mpr ⟨x, hx, hresolve⟩, hf⟩
  distinct x hx hnodup c trail h := by
    obtain ⟨x', hx', hresolve⟩ := compile_eq_unresolved_iff.mp h
    obtain rfl := Except.ok.inj (hx.symm.trans hx')
    exact (firstClash_of_resolve hresolve).1.not_nodup hnodup
  clash c trail h := by
    obtain ⟨x, hx, hresolve⟩ := compile_eq_unresolved_iff.mp h
    exact ⟨x, hx, firstClash_of_resolve hresolve⟩

/-- Clocks on two iterators, of which two assignments make the same name. -/
def Demo.merged : Decl.Document where
  iterators := [("x", .values [.text "a", .text "ab"]), ("y", .values [.text "bc", .text "c"])]
  instances := {
    clocks := [{
      name := some "{x}{y}", kind := some "periodic", interval := some (.ofSeconds 1) }] }

example : Demo.merged.compile = .error (.unresolved
    ⟨.nameClash ⟨"abc", ⟨.clock, .shared⟩, ⟨.clock, .shared⟩⟩, [⟨"clock instance", "abc"⟩]⟩) := by
  with_unfolding_all rfl

end TelemetrySim
