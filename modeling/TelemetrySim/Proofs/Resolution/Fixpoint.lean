import TelemetrySim.Proofs.Resolution.Inheritance
import TelemetrySim.Proofs.Resolution.WellFormed

/-!
The templates of a kind when building never fails. Then resolving them can only fail on a cycle of
bases, and what it gives is the one table in which every template is built on the entry of its base.
-/

set_option autoImplicit false
set_option relaxedAutoImplicit false

namespace TelemetrySim

open Relation (TransGen)
open Declared (name base shared)

namespace Resolution

variable {δ ρ : Type} [Declared δ] {kind : EntityKind} {build : Build δ ρ} {ds : List δ} {d : δ}
  {table other : List (String × ρ)}

/-- Building a template on what it inherits never fails. -/
def NeverFails (kind : EntityKind) (build : Build δ ρ) (ds : List δ) : Prop :=
  ∀ d ∈ ds, ∀ b, Inherited kind build ds (base d) b →
    ∃ r, build d b (trailOf ⟨kind, .template⟩ d) = .ok r

/-- The table has one entry for each template: the template, built on the entry of its base. -/
structure IsFixpoint (kind : EntityKind) (build : Build δ ρ) (ds : List δ)
    (table : List (String × ρ)) : Prop where
  keys : (Assoc.keys table).Perm (ds.map name)
  entry : ∀ d ∈ ds, ∃ b r, readyBase table d = some b ∧
    build d b (trailOf ⟨kind, .template⟩ d) = .ok r ∧ table.lookup (name d) = some r

theorem NeverFails.resolves (hbuilds : NeverFails kind build ds) (hd : d ∈ ds)
    (hgrounded : Grounded ds d) : ∃ r, Resolves kind .template build ds d r := by
  have hchain : ∀ {n : Option String} {l : List δ}, Chain ds n l →
      ∃ b, Inherited kind build ds n b := by
    intro n l hl
    induction hl with
    | nil => exact ⟨none, .nothing⟩
    | cons hd htail ih =>
      obtain ⟨b, hb⟩ := ih
      obtain ⟨r, hr⟩ := hbuilds _ hd b hb
      exact ⟨some r, .template hd hb hr⟩
  obtain ⟨l, hl⟩ := grounded_iff_chain.mp hgrounded
  obtain ⟨b, hb⟩ := hchain hl
  obtain ⟨r, hr⟩ := hbuilds d hd b hb
  exact ⟨r, b, hb, hr⟩

/-- The table of all templates is a fixpoint. -/
theorem Underway.isFixpoint (hnames : (ds.map name).Nodup) (h : Underway kind build ds [] table) :
    IsFixpoint kind build ds table where
  keys := by simpa using h.keys
  entry := by
    intro d hd
    obtain ⟨r, hlookup, b, hbase, hbuilt⟩ := h.exists_resolves hnames hd
    exact ⟨b, r, (h.readyBase_iff hnames).mpr hbase, hbuilt, hlookup⟩

/-- A fixpoint says of every template whose bases end what it resolves to. -/
theorem IsFixpoint.sound (hfixpoint : IsFixpoint kind build ds table) {n : Option String}
    {l : List δ} (h : Chain ds n l) :
    ∀ m, n = some m → ∃ r, table.lookup m = some r ∧ Inherited kind build ds (some m) (some r) := by
  induction h with
  | nil => simp
  | @cons d l hd htail ih =>
    intro m hm
    obtain rfl := Option.some_inj.mp hm
    obtain ⟨b, r, hready, hbuilt, hlookup⟩ := hfixpoint.entry d hd
    refine ⟨r, hlookup, ?_⟩
    cases hname : base d with
    | none =>
      obtain rfl : none = b := by simpa [readyBase, hname] using hready
      exact .template hd (hname ▸ .nothing) hbuilt
    | some n =>
      obtain ⟨r', hlookup', hinherited⟩ := ih n hname
      obtain rfl : some r' = b := by simpa [readyBase, hname, hlookup'] using hready
      exact .template hd (hname ▸ hinherited) hbuilt

/-- If all bases end there is only one fixpoint. -/
theorem IsFixpoint.unique (hnames : (ds.map name).Nodup) (hgrounded : ∀ d ∈ ds, Grounded ds d)
    (htable : IsFixpoint kind build ds table) (hother : IsFixpoint kind build ds other)
    (n : String) : other.lookup n = table.lookup n := by
  by_cases hn : n ∈ ds.map name
  · obtain ⟨d, hd, rfl⟩ := List.mem_map.mp hn
    obtain ⟨l, hl⟩ := grounded_iff_chain.mp (hgrounded d hd)
    obtain ⟨r, hlookup, hr⟩ := htable.sound (.cons hd hl) _ rfl
    obtain ⟨r', hlookup', hr'⟩ := hother.sound (.cons hd hl) _ rfl
    rw [hlookup, hlookup', hr.unique hnames hr']
  · have hmissing : ∀ {t : List (String × ρ)}, IsFixpoint kind build ds t → t.lookup n = none := by
      intro t ht
      cases hlookup : t.lookup n with
      | none => rfl
      | some r =>
        have hkey : n ∈ Assoc.keys t := Assoc.mem_keys_iff.mpr ⟨r, hlookup⟩
        exact absurd (ht.keys.mem_iff.mp hkey) hn
    rw [hmissing htable, hmissing hother]

/-- Templates that pass the checks are resolved by the passes alone. -/
theorem resolveTemplates_eq_passes (ns : Namespace) (hunshared : ∀ d ∈ ds, shared d = none)
    (hbases : BasesDeclared ds) :
    resolveTemplates ns kind build ds = passes ⟨kind, .template⟩ build ds [] := by
  have hcheck : checkTemplates ns ⟨kind, .template⟩ ds = .ok () :=
    (checkTemplates_eq_ok_iff ns).mpr ⟨hunshared, hbases⟩
  rw [resolveTemplates, hcheck]
  rfl

theorem NeverFails.exists_iff_grounded (ns : Namespace) (hnames : (ds.map name).Nodup)
    (hunshared : ∀ d ∈ ds, shared d = none) (hbuilds : NeverFails kind build ds) :
    (∃ table, resolveTemplates ns kind build ds = .ok table) ↔ ∀ d ∈ ds, Grounded ds d := by
  rw [exists_resolveTemplates_iff ns hnames]
  refine ⟨fun h d hd ↦ ?_, fun h d hd ↦ ⟨hunshared d hd, hbuilds.resolves hd (h d hd)⟩⟩
  obtain ⟨-, r, hresolves⟩ := h d hd
  exact hresolves.grounded

/-- If building never fails, the only error left is that of a cycle. -/
theorem NeverFails.error_eq (hnames : (ds.map name).Nodup) (hbuilds : NeverFails kind build ds)
    {f : Failure} (h : passes ⟨kind, .template⟩ build ds [] = .error f) :
    f = ⟨.cycle kind ((ungrounded ds).map name), []⟩ := by
  rcases passes_error hnames .start h with ⟨d, hd, b, hinherited, hfails⟩ | ⟨-, hcycle⟩
  · obtain ⟨r, hbuilt⟩ := hbuilds d hd b hinherited
    simp [hbuilt] at hfails
  · exact hcycle

/-- If building never fails, resolving templates ends after as many passes as there are templates.
It succeeds if and only if no template is based on itself, directly or through others; the table is
then the only fixpoint. Otherwise it fails with the templates whose bases never end, in their
order. -/
theorem resolveTemplates_fixpoint (ns : Namespace) (hnames : (ds.map name).Nodup)
    (hunshared : ∀ d ∈ ds, shared d = none) (hbases : BasesDeclared ds)
    (hbuilds : NeverFails kind build ds) :
    passesWithin ⟨kind, .template⟩ build (ds.length + 1) ds [] =
        some (resolveTemplates ns kind build ds) ∧
      ((∃ table, resolveTemplates ns kind build ds = .ok table) ↔
        ∀ d ∈ ds, ¬ TransGen (BasedOn ds) d d) ∧
      (∀ table, resolveTemplates ns kind build ds = .ok table →
        IsFixpoint kind build ds table ∧
          ∀ other, IsFixpoint kind build ds other → ∀ n, other.lookup n = table.lookup n) ∧
      ((¬ ∀ d ∈ ds, ¬ TransGen (BasedOn ds) d d) →
        resolveTemplates ns kind build ds =
          .error ⟨.cycle kind ((ungrounded ds).map name), []⟩) := by
  have hpasses : resolveTemplates ns kind build ds = passes ⟨kind, .template⟩ build ds [] :=
    resolveTemplates_eq_passes ns hunshared hbases
  have hacyclic := forall_grounded_iff_acyclic hnames hbases
  have hok := hbuilds.exists_iff_grounded ns hnames hunshared
  refine ⟨?_, hok.trans hacyclic, fun table h ↦ ?_, fun hcyclic ↦ ?_⟩
  · rw [hpasses, passesWithin_eq _ _ (Nat.lt_succ_self _)]
  · have hfixpoint := (resolveTemplates_ok hnames h).isFixpoint hnames
    exact ⟨hfixpoint, fun other hother ↦ hfixpoint.unique hnames (hok.mp ⟨table, h⟩) hother⟩
  · cases h : resolveTemplates ns kind build ds with
    | ok table => exact absurd (hacyclic.mp (hok.mp ⟨table, h⟩)) hcyclic
    | error f => rw [hbuilds.error_eq hnames (hpasses.symm.trans h)]

end Resolution

/-! ### A demonstration

Five templates of clocks: `fast` stands before its base, two are based on each other, and one more
hangs on them. -/

namespace Demo

open Resolution

def tangle : List Decl.Clock := [
  { name := some "fast", templateName := some "slow", interval := some (.ofMillis 100) },
  { name := some "tail", templateName := some "left" },
  { name := some "slow", kind := some "periodic", interval := some (.ofSeconds 10) },
  { name := some "left", templateName := some "right" },
  { name := some "right", templateName := some "left" }]

/-- A clock that is well written can be built on a base that is well formed. -/
theorem exists_buildClock {c : Decl.Clock} {b : Option Config.Clock} {trail : Trail}
    (hb : ∀ r, b = some r → r.WellFormed) (hkind : c.kind ≠ some "")
    (hinterval : c.interval ≠ some .zero) (hbase : b = none → c.kind.isSome ∧ c.interval.isSome) :
    ∃ r, Scope.buildClock c b trail = .ok r := by
  obtain ⟨n, i, t, kind, interval⟩ := c
  have hzero : ∀ d : Duration, interval = some d → d.isZero = false := by
    rintro d rfl
    simpa [Bool.eq_false_iff, Duration.isZero_iff] using hinterval
  cases b with
  | none =>
    obtain ⟨hk, hi⟩ := hbase rfl
    obtain ⟨k, rfl⟩ := Option.isSome_iff_exists.mp hk
    obtain ⟨d, rfl⟩ := Option.isSome_iff_exists.mp hi
    refine ⟨⟨k, d⟩, Scope.buildClock_eq_ok_iff.mpr ⟨rfl, ?_, rfl, hzero d rfl⟩⟩
    simpa using hkind
  | some r =>
    refine ⟨⟨kind.getD r.kind, interval.getD r.interval⟩, Scope.buildClock_eq_ok_iff.mpr ?_⟩
    refine ⟨?_, ?_, ?_, ?_⟩
    · cases kind <;> rfl
    · cases kind with
      | none => exact (hb r rfl).kind_ne
      | some k => simpa using hkind
    · cases interval <;> rfl
    · cases interval with
      | none => exact (hb r rfl).interval_ne
      | some d => exact hzero d rfl

theorem neverFails_tangle : NeverFails .clock Scope.buildClock tangle := by
  intro d hd b hb
  have hwell := hb.all Scope.keeps_clockWellFormed
  have hbase : b = none → base d = none := by
    rintro rfl
    cases hname : base d with
    | none => rfl
    | some n =>
      rw [hname] at hb
      cases hb
  simp only [tangle, List.mem_cons, List.not_mem_nil, or_false] at hd
  rcases hd with rfl | rfl | rfl | rfl | rfl <;>
    exact exists_buildClock hwell (by decide) (by decide) fun h ↦ by
      have hnone := hbase h
      revert hnone
      decide

/-- The demonstration meets the conditions; it fails, with the two templates that are based on each
other and the one that hangs on them. -/
theorem tangle_fixpoint :
    ((tangle.map name).Nodup ∧ (∀ d ∈ tangle, shared d = none) ∧ BasesDeclared tangle ∧
        NeverFails .clock Scope.buildClock tangle) ∧
      resolveTemplates {} .clock Scope.buildClock tangle =
        .error ⟨.cycle .clock ["tail", "left", "right"], []⟩ ∧
      (¬ ∃ table, resolveTemplates {} .clock Scope.buildClock tangle = .ok table) ∧
      (ungrounded tangle).map name = ["tail", "left", "right"] := by
  have hnames : (tangle.map name).Nodup := by decide
  have hunshared : ∀ d ∈ tangle, shared d = none := by decide
  have hbases : BasesDeclared tangle := by
    intro d hd b hb
    have hall : ∀ d ∈ tangle, ∀ b, base d = some b → ∃ d' ∈ tangle, name d' = b := by
      simp [tangle, base, name]
    exact hall d hd b hb
  have hfails : resolveTemplates {} .clock Scope.buildClock tangle =
      .error ⟨.cycle .clock ["tail", "left", "right"], []⟩ := by with_unfolding_all rfl
  obtain ⟨-, hok, -, herror⟩ :=
    resolveTemplates_fixpoint {} hnames hunshared hbases neverFails_tangle
  have hnone : ¬ ∃ table, resolveTemplates {} .clock Scope.buildClock tangle = .ok table := by
    rintro ⟨table, h⟩
    simp [hfails] at h
  have hnamed := herror fun hacyclic ↦ hnone (hok.mpr hacyclic)
  rw [hfails] at hnamed
  refine ⟨⟨hnames, hunshared, hbases, neverFails_tangle⟩, hfails, hnone, ?_⟩
  simpa using hnamed.symm

end Demo

end TelemetrySim
