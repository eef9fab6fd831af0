import TelemetrySim.Proofs.Outcome
import TelemetrySim.Resolution.Document

/-!
Invariants of resolving. A property of entities that building keeps, from a base to what is built on
it, holds of everything of a kind that is resolved: of the templates, in however many passes they are
resolved, and of the instances (`Resolution.resolveKind_all`).
-/

set_option autoImplicit false
set_option relaxedAutoImplicit false

namespace TelemetrySim

open Outcome

/-! ### Tables -/

namespace Assoc

variable {α : Type} {P : α → Prop} {l : List (String × α)}

/-- Every entry of a table has a property. -/
def All (P : α → Prop) (l : List (String × α)) : Prop := ∀ p ∈ l, P p.2

theorem all_nil : All P [] := by
  intro p hp
  simp at hp

theorem All.of_lookup (hall : All P l) {key : String} {a : α} (h : l.lookup key = some a) :
    P a :=
  hall (key, a) (mem_of_lookup h)

theorem All.insert (hall : All P l) {a : α} (ha : P a) (key : String) :
    All P (Assoc.insert key a l) := by
  induction l with
  | nil =>
    intro p hp
    obtain rfl : p = (key, a) := by simpa [Assoc.insert] using hp
    exact ha
  | cons q rest ih =>
    obtain ⟨k, b⟩ := q
    have hb : P b := hall (k, b) (by simp)
    have hrest : All P rest := fun p hp ↦ hall p (by simp [hp])
    intro p hp
    by_cases hk : k = key
    · simp only [Assoc.insert, hk, if_true, List.mem_cons] at hp
      rcases hp with rfl | hp
      · exact ha
      · exact hrest p hp
    · simp only [Assoc.insert, hk, if_false, List.mem_cons] at hp
      rcases hp with rfl | hp
      · exact hb
      · exact ih hrest p hp

end Assoc

open Assoc (All all_nil)

/-- Every resolved entity of a kind has a property. -/
structure Tables.All {ρ : Type} (P : ρ → Prop) (t : Tables ρ) : Prop where
  templates : Assoc.All P t.templates
  shared : Assoc.All P t.shared

/-! ### Declarations of one kind -/

namespace Resolution

/-- From bases that have a property, only entities that have it are built. -/
def Keeps {δ ρ : Type} (build : Build δ ρ) (P : ρ → Prop) : Prop :=
  ∀ ⦃d base trail r⦄, (∀ b, base = some b → P b) → build d base trail = .ok r → P r

variable {δ ρ : Type} [Declared δ] {build : Build δ ρ} {P : ρ → Prop}

theorem readyBase_all {resolved : List (String × ρ)} (hall : All P resolved) {d : δ}
    {base : Option ρ} (h : readyBase resolved d = some base) : ∀ b, base = some b → P b := by
  intro b hb
  subst hb
  cases hname : Declared.base d with
  | none => simp [readyBase, hname] at h
  | some name =>
    have hlookup : resolved.lookup name = some b := by simpa [readyBase, hname] using h
    exact hall.of_lookup hlookup

/-- A pass puts a template off, or builds it on its base and goes on with the entity built. -/
theorem pass_cons_ok {e : Entity} {d : δ} {rest deferred : List δ}
    {resolved table : List (String × ρ)}
    (h : pass e build (d :: rest) resolved = .ok (table, deferred)) :
    (readyBase resolved d = none ∧
        ∃ others, pass e build rest resolved = .ok (table, others) ∧ deferred = d :: others) ∨
      ∃ base r, readyBase resolved d = some base ∧ build d base (trailOf e d) = .ok r ∧
        pass e build rest (Assoc.insert (Declared.name d) r resolved) = .ok (table, deferred) := by
  rw [pass] at h
  cases hready : readyBase resolved d with
  | none =>
    rw [hready] at h
    obtain ⟨⟨table', others⟩, hrest, hpair⟩ := bind_eq_ok_iff.mp h
    obtain ⟨rfl, rfl⟩ : table' = table ∧ d :: others = deferred := by
      simpa [pure, Except.pure] using hpair
    exact .inl ⟨rfl, others, hrest, rfl⟩
  | some base =>
    rw [hready] at h
    obtain ⟨r, hr, hrest⟩ := bind_eq_ok_iff.mp h
    exact .inr ⟨base, r, rfl, hr, hrest⟩

/-- One pass resolves only entities that have the property. -/
theorem pass_all (hbuild : Keeps build P) {e : Entity} {ds deferred : List δ}
    {resolved table : List (String × ρ)} (hall : All P resolved)
    (h : pass e build ds resolved = .ok (table, deferred)) : All P table := by
  induction ds generalizing resolved deferred with
  | nil =>
    obtain ⟨rfl, -⟩ : resolved = table ∧ [] = deferred := by
      simpa [pass, pure, Except.pure] using h
    exact hall
  | cons d rest ih =>
    rcases pass_cons_ok h with ⟨-, others, hrest, -⟩ | ⟨base, r, hready, hr, hrest⟩
    · exact ih hall hrest
    · have hbuilt : P r := hbuild (readyBase_all hall hready) hr
      exact ih (hall.insert hbuilt _) hrest

theorem passes_all (hbuild : Keeps build P) {e : Entity} {pending : List δ}
    {resolved table : List (String × ρ)} (hall : All P resolved)
    (h : passes e build pending resolved = .ok table) : All P table := by
  fun_induction passes e build pending resolved with
  | case1 pending resolved hempty =>
    obtain rfl : resolved = table := by simpa [pure, Except.pure] using h
    exact hall
  | case2 pending resolved hpending failure hfailure => simp at h
  | case3 pending resolved hpending next deferred hpass hless ih =>
    exact ih (pass_all hbuild hall hpass) h
  | case4 pending resolved hpending next deferred hpass hstuck => simp [fails] at h

theorem resolveTemplates_all (hbuild : Keeps build P) {ns : Namespace} {kind : EntityKind}
    {ds : List δ} {table : List (String × ρ)}
    (h : resolveTemplates ns kind build ds = .ok table) : All P table := by
  obtain ⟨-, -, hpasses⟩ := bind_eq_ok_iff.mp h
  exact passes_all hbuild all_nil hpasses

theorem findBase_all {ns : Namespace} {kind : EntityKind} {templates : List (String × ρ)}
    (hall : All P templates) {trail : Trail} {name : Option String} {base : Option ρ}
    (h : findBase ns kind templates trail name = .ok base) : ∀ b, base = some b → P b := by
  intro b hb
  subst hb
  cases name with
  | none => simp [findBase, pure, Except.pure] at h
  | some name =>
    obtain ⟨b', hfound, hb'⟩ := map_eq_ok_iff.mp h
    obtain rfl : b' = b := by simpa using hb'
    cases hlookup : templates.lookup name with
    | none => simp [orFails, fails, hlookup] at hfound
    | some b'' =>
      obtain rfl : b'' = b' := by simpa [orFails, hlookup] using hfound
      exact hall.of_lookup hlookup

theorem resolveInstances_all (hbuild : Keeps build P) {ns : Namespace} {kind : EntityKind}
    {templates table : List (String × ρ)} (hall : All P templates) {ds : List δ}
    (h : resolveInstances ns kind build templates ds = .ok table) : All P table := by
  refine foldlM_keeps (P := All P) (fun d _ resolved next hresolved hstep ↦ ?_) all_nil h
  obtain ⟨-, -, hstep⟩ := bind_eq_ok_iff.mp hstep
  obtain ⟨base, hbase, hstep⟩ := bind_eq_ok_iff.mp hstep
  obtain ⟨r, hr, hnext⟩ := bind_eq_ok_iff.mp hstep
  obtain rfl : Assoc.insert (Declared.name d) r resolved = next := by
    simpa [pure, Except.pure] using hnext
  exact hresolved.insert (hbuild (findBase_all hall hbase) hr) _

theorem resolveKind_all (hbuild : Keeps build P) {ns : Namespace} {kind : EntityKind}
    {templates instances : List δ} {t : Tables ρ}
    (h : resolveKind ns kind build templates instances = .ok t) : t.All P := by
  obtain ⟨ts, hts, h⟩ := bind_eq_ok_iff.mp h
  obtain ⟨is, his, h⟩ := bind_eq_ok_iff.mp h
  obtain rfl : (⟨ts, is⟩ : Tables ρ) = t := by simpa [pure, Except.pure] using h
  have htemplates : All P ts := resolveTemplates_all hbuild hts
  exact ⟨htemplates, resolveInstances_all hbuild htemplates his⟩

end Resolution

end TelemetrySim
