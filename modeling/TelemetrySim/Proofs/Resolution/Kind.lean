import TelemetrySim.Proofs.Pairing
import TelemetrySim.Proofs.Resolution.Inheritance
import TelemetrySim.Proofs.Resolution.Reference
import TelemetrySim.Resolution.Document

/-!
The declarations of one kind. Claiming their names succeeds if and only if the names are new and
distinct (`register_eq_ok_iff`). `ResolvedKind` says what the tables of a kind hold after it has
been resolved: of every template and every instance what it resolves to, and the instances in the
order of their declarations. Resolving a kind gives such tables (`resolveKind_ok`), and it succeeds
if and only if every declaration resolves to something (`exists_resolveKind_iff`).
-/

set_option autoImplicit false
set_option relaxedAutoImplicit false

namespace TelemetrySim

open Outcome
open Declared (name base shared)

/-! ### Claiming names -/

/-- The names that are taken. -/
def Namespace.claimed (ns : Namespace) : List String := Assoc.keys ns.names

theorem Namespace.register_eq_ok_iff {ns ns' : Namespace} {n : String} {e : Entity} :
    ns.register n e = .ok ns' ↔ n ∉ ns.claimed ∧ ⟨ns.names ++ [(n, e)]⟩ = ns' := by
  rw [claimed, Assoc.mem_keys_iff, register, lookup]
  cases hlookup : ns.names.lookup n with
  | none => simp
  | some holder => simp

theorem Namespace.register_eq_error_iff {ns : Namespace} {n : String} {e : Entity} {c : NameClash} :
    ns.register n e = .error c ↔ ∃ holder, ns.lookup n = some holder ∧ ⟨n, holder, e⟩ = c := by
  rw [register]
  cases hlookup : ns.lookup n with
  | none => simp
  | some holder => simp

namespace Resolution

variable {δ ρ : Type} [Declared δ] {kind : EntityKind} {build : Build δ ρ}
  {templates instances : List δ} {ns ns' : Namespace}

theorem registerAll_eq_ok_iff {e : Entity} {ds : List δ} (hns : ns.claimed.Nodup) :
    registerAll e ds ns = .ok ns' ↔
      (ns.claimed ++ ds.map name).Nodup ∧ ⟨ns.names ++ ds.map fun d ↦ (name d, e)⟩ = ns' := by
  induction ds generalizing ns with
  | nil => simp [registerAll, pure, Except.pure, hns]
  | cons d rest ih =>
    have hstep : registerAll e (d :: rest) ns = .ok ns' ↔
        name d ∉ ns.claimed ∧ registerAll e rest ⟨ns.names ++ [(name d, e)]⟩ = .ok ns' := by
      rw [registerAll, List.foldlM_cons, bind_eq_ok_iff]
      simp only [mapError_eq_ok_iff, Namespace.register_eq_ok_iff]
      constructor
      · rintro ⟨next, ⟨hfresh, rfl⟩, hrest⟩
        exact ⟨hfresh, hrest⟩
      · rintro ⟨hfresh, hrest⟩
        exact ⟨_, ⟨hfresh, rfl⟩, hrest⟩
    have hclaimed : Namespace.claimed ⟨ns.names ++ [(name d, e)]⟩ = ns.claimed ++ [name d] := by
      simp [Namespace.claimed, Assoc.keys]
    have hmoved : (ns.claimed ++ name d :: rest.map name).Nodup ↔
        name d ∉ ns.claimed ∧ (ns.claimed ++ [name d] ++ rest.map name).Nodup := by
      rw [List.append_assoc, List.singleton_append]
      refine ⟨fun h ↦ ⟨fun hmem ↦ ?_, h⟩, fun h ↦ h.2⟩
      exact (List.nodup_append.mp h).2.2 _ hmem _ (by simp) rfl
    rw [hstep, List.map_cons, hmoved, and_assoc]
    refine and_congr_right fun hfresh ↦ ?_
    have hnext : (ns.claimed ++ [name d]).Nodup :=
      hns.append (List.nodup_singleton _) (by simpa using hfresh)
    rw [ih (hclaimed ▸ hnext), hclaimed, List.append_assoc ns.names]
    rfl

/-- Names of a kind can be claimed if and only if they are new and distinct. -/
theorem register_eq_ok_iff (hns : ns.claimed.Nodup) :
    register kind templates instances ns = .ok ns' ↔
      (ns.claimed ++ (templates.map name ++ instances.map name)).Nodup ∧
        ⟨ns.names ++ ((templates.map fun d ↦ (name d, ⟨kind, .template⟩)) ++
          instances.map fun d ↦ (name d, ⟨kind, .shared⟩))⟩ = ns' := by
  have hclaimed : Namespace.claimed
      ⟨ns.names ++ templates.map fun d ↦ (name d, (⟨kind, .template⟩ : Entity))⟩ =
        ns.claimed ++ templates.map name := by
    simp [Namespace.claimed, Assoc.keys, Function.comp_def]
  rw [register, bind_eq_ok_iff]
  simp only [registerAll_eq_ok_iff hns]
  constructor
  · rintro ⟨middle, ⟨htemplates, rfl⟩, h⟩
    rw [registerAll_eq_ok_iff (hclaimed ▸ htemplates), hclaimed] at h
    simpa only [List.append_assoc] using h
  · rintro ⟨hnodup, h⟩
    rw [← List.append_assoc] at hnodup
    have htemplates : (ns.claimed ++ templates.map name).Nodup := hnodup.of_append_left
    refine ⟨_, ⟨htemplates, rfl⟩, ?_⟩
    rw [registerAll_eq_ok_iff (hclaimed ▸ htemplates), hclaimed]
    exact ⟨hnodup, by simpa only [List.append_assoc] using h⟩

theorem claimed_register (hns : ns.claimed.Nodup)
    (h : register kind templates instances ns = .ok ns') :
    ns'.claimed = ns.claimed ++ (templates.map name ++ instances.map name) ∧ ns'.claimed.Nodup := by
  obtain ⟨hnodup, rfl⟩ := (register_eq_ok_iff hns).mp h
  have hclaimed : Namespace.claimed
      ⟨ns.names ++ ((templates.map fun d ↦ (name d, (⟨kind, .template⟩ : Entity))) ++
        instances.map fun d ↦ (name d, ⟨kind, .shared⟩))⟩ =
      ns.claimed ++ (templates.map name ++ instances.map name) := by
    simp [Namespace.claimed, Assoc.keys, Function.comp_def]
  exact ⟨hclaimed, hclaimed ▸ hnodup⟩

end Resolution

/-! ### Instances -/

/-- A loop that inserts under new names lists what it inserts, in order. -/
theorem Assoc.foldlM_insert_eq_ok_iff {ε δ ρ : Type} {key : δ → String} {P : δ → ρ → Prop}
    {f : List (String × ρ) → δ → Except ε (List (String × ρ))}
    (hstep : ∀ resolved d next,
      f resolved d = .ok next ↔ ∃ r, P d r ∧ Assoc.insert (key d) r resolved = next)
    {ds : List δ} {resolved table : List (String × ρ)}
    (hfresh : (Assoc.keys resolved ++ ds.map key).Nodup) :
    ds.foldlM f resolved = .ok table ↔
      ∃ entries, List.Forall₂ (fun d p ↦ p.1 = key d ∧ P d p.2) ds entries ∧
        resolved ++ entries = table := by
  induction ds generalizing resolved with
  | nil => simp [pure, Except.pure]
  | cons d rest ih =>
    have hnew : key d ∉ Assoc.keys resolved :=
      fun hmem ↦ (List.nodup_append.mp hfresh).2.2 _ hmem _ (by simp) rfl
    have hrest : ∀ r, (Assoc.keys (Assoc.insert (key d) r resolved) ++ rest.map key).Nodup := by
      intro r
      rw [Assoc.keys_insert, if_neg hnew, List.append_assoc, List.singleton_append]
      exact hfresh
    rw [List.foldlM_cons, bind_eq_ok_iff]
    simp only [hstep]
    constructor
    · rintro ⟨next, ⟨r, hr, rfl⟩, h⟩
      obtain ⟨entries, hentries, rfl⟩ := (ih (hrest r)).mp h
      refine ⟨(key d, r) :: entries, .cons ⟨rfl, hr⟩ hentries, ?_⟩
      rw [Assoc.insert_of_notMem hnew, List.append_assoc, List.singleton_append]
    · rintro ⟨entries, hentries, rfl⟩
      cases hentries with
      | @cons _ p _ others hp hothers =>
        obtain ⟨k, r⟩ := p
        obtain ⟨rfl, hr⟩ := hp
        refine ⟨_, ⟨r, hr, rfl⟩, (ih (hrest r)).mpr ⟨others, hothers, ?_⟩⟩
        rw [Assoc.insert_of_notMem hnew, List.append_assoc, List.singleton_append]

namespace Resolution

variable {δ ρ : Type} [Declared δ] {kind : EntityKind} {build : Build δ ρ}
  {templates instances : List δ} {ns : Namespace}

theorem checkDeclaration_eq_ok_iff {e : Entity} {d : δ} :
    checkDeclaration e d = .ok () ↔ shared d = none := by
  cases hshared : shared d with
  | none => simp [checkDeclaration, hshared, pure, Except.pure]
  | some s => simp [checkDeclaration, hshared, fails]

theorem findBase_eq_ok_iff {table : List (String × ρ)} {trail : Trail} {d : δ} {b : Option ρ} :
    findBase ns kind table trail (base d) = .ok b ↔ readyBase table d = some b := by
  cases hbase : base d with
  | none => simp [findBase, readyBase, hbase, pure, Except.pure]
  | some n => simp [findBase, readyBase, hbase, map_eq_ok_iff, Scope.orFails_eq_ok_iff]

/-- A table lists declarations, in their order, with what they resolve to. -/
def Lists (kind : EntityKind) (build : Build δ ρ) (templates instances : List δ)
    (table : List (String × ρ)) : Prop :=
  List.Forall₂ (fun d p ↦ p.1 = name d ∧ Resolves kind .shared build templates d p.2) instances
    table

theorem resolveInstances_eq_ok_iff (htemplates : (templates.map name).Nodup)
    (hinstances : (instances.map name).Nodup) {bases table : List (String × ρ)}
    (hbases : Underway kind build templates [] bases) :
    resolveInstances ns kind build bases instances = .ok table ↔
      (∀ d ∈ instances, shared d = none) ∧ Lists kind build templates instances table := by
  have hstep : ∀ (resolved : List (String × ρ)) (d : δ) (next : List (String × ρ)),
      ((do
        checkDeclaration ⟨kind, .shared⟩ d
        let b ← findBase ns kind bases (trailOf ⟨kind, .shared⟩ d) (base d)
        let r ← build d b (trailOf ⟨kind, .shared⟩ d)
        pure (Assoc.insert (name d) r resolved)) : Resolved (List (String × ρ))) = .ok next ↔
      ∃ r, (shared d = none ∧ Resolves kind .shared build templates d r) ∧
        Assoc.insert (name d) r resolved = next := by
    intro resolved d next
    simp only [bind_eq_ok_iff, findBase_eq_ok_iff, hbases.readyBase_iff htemplates]
    constructor
    · rintro ⟨⟨⟩, hcheck, b, hb, r, hr, hnext⟩
      exact ⟨r, ⟨checkDeclaration_eq_ok_iff.mp hcheck, b, hb, hr⟩, Except.ok.inj hnext⟩
    · rintro ⟨r, ⟨hshared, b, hb, hr⟩, rfl⟩
      exact ⟨(), checkDeclaration_eq_ok_iff.mpr hshared, b, hb, r, hr, rfl⟩
  have hfresh : (Assoc.keys ([] : List (String × ρ)) ++ instances.map name).Nodup := by
    simpa [Assoc.keys] using hinstances
  rw [resolveInstances, Assoc.foldlM_insert_eq_ok_iff hstep hfresh]
  simp only [List.nil_append, exists_eq_right, Lists]
  rw [← List.forall₂_and_left]
  exact ⟨fun h ↦ h.imp fun _ _ hp ↦ ⟨hp.2.1, hp.1, hp.2.2⟩,
    fun h ↦ h.imp fun _ _ hp ↦ ⟨hp.2.1, hp.1, hp.2.2⟩⟩

/-! ### The tables of a kind -/

/-- What the tables of a kind hold when it has been resolved. -/
structure ResolvedKind (kind : EntityKind) (build : Build δ ρ) (templates instances : List δ)
    (t : Tables ρ) : Prop where
  names : (templates.map name ++ instances.map name).Nodup
  unshared : ∀ d ∈ templates ++ instances, shared d = none
  bases : Underway kind build templates [] t.templates
  shared : Lists kind build templates instances t.shared

theorem resolveKind_ok (hnames : (templates.map name ++ instances.map name).Nodup) {t : Tables ρ}
    (h : resolveKind ns kind build templates instances = .ok t) :
    ResolvedKind kind build templates instances t := by
  obtain ⟨ts, hts, h⟩ := bind_eq_ok_iff.mp h
  obtain ⟨is, his, h⟩ := bind_eq_ok_iff.mp h
  obtain rfl : (⟨ts, is⟩ : Tables ρ) = t := Except.ok.inj h
  have htemplates := resolveTemplates_ok hnames.of_append_left hts
  obtain ⟨hunshared, hlists⟩ := (resolveInstances_eq_ok_iff hnames.of_append_left
    hnames.of_append_right htemplates).mp his
  have hplain : ∀ d ∈ templates, shared d = none := (resolveTemplates_eq_ok_iff.mp hts).1
  exact {
    names := hnames
    unshared := fun d hd ↦ (List.mem_append.mp hd).elim (hplain d) (hunshared d)
    bases := htemplates
    shared := hlists }

namespace ResolvedKind

variable {t : Tables ρ} (h : ResolvedKind kind build templates instances t) {n : String} {r : ρ}

include h

/-- A name is found among the templates if and only if it is declared, as what it resolves to. -/
theorem lookup_templates :
    t.templates.lookup n = some r ↔
      ∃ d ∈ templates, name d = n ∧ Resolves kind .template build templates d r :=
  (h.bases.lookup_iff h.names.of_append_left).trans inherited_some_iff

/-- A name is found among the instances if and only if it is declared, as what it resolves to. -/
theorem lookup_shared :
    t.shared.lookup n = some r ↔
      ∃ d ∈ instances, name d = n ∧ Resolves kind .shared build templates d r := by
  have hsound : ∀ {r}, t.shared.lookup n = some r →
      ∃ d ∈ instances, name d = n ∧ Resolves kind .shared build templates d r := by
    intro r hlookup
    obtain ⟨d, hd, hname, hresolves⟩ :=
      Pairing.exists_left h.shared (Assoc.mem_of_lookup hlookup)
    exact ⟨d, hd, hname.symm, hresolves⟩
  refine ⟨hsound, ?_⟩
  rintro ⟨d, hd, rfl, hresolves⟩
  obtain ⟨p, hp, hname, -⟩ := Pairing.exists_right h.shared hd
  have hkey : name d ∈ Assoc.keys t.shared := List.mem_map.mpr ⟨p, hp, hname⟩
  obtain ⟨r', hlookup⟩ := Assoc.mem_keys_iff.mp hkey
  obtain ⟨d', hd', hsame, hresolves'⟩ := hsound hlookup
  obtain rfl := eq_of_name_eq h.names.of_append_right hd' hd hsame
  rw [hlookup, hresolves'.unique h.names.of_append_left hresolves]

/-- Building that succeeds more often gives the same tables. -/
theorem mono {build' : Build δ ρ}
    (hbuild : ∀ d b trail, Refines (build d b trail) (build' d b trail)) :
    ResolvedKind kind build' templates instances t where
  names := h.names
  unshared := h.unshared
  bases := h.bases.mono hbuild
  shared := h.shared.imp fun _ _ hp ↦ ⟨hp.1, hp.2.mono (List.Subset.refl _) hbuild⟩

end ResolvedKind

/-- A kind can be resolved if and only if every declaration of it resolves to something. -/
theorem exists_resolveKind_iff (ns : Namespace)
    (hnames : (templates.map name ++ instances.map name).Nodup) :
    (∃ t, resolveKind ns kind build templates instances = .ok t) ↔
      (∀ d ∈ templates, shared d = none ∧ ∃ r, Resolves kind .template build templates d r) ∧
        ∀ d ∈ instances, shared d = none ∧ ∃ r, Resolves kind .shared build templates d r := by
  constructor
  · rintro ⟨t, h⟩
    obtain ⟨ts, hts, h⟩ := bind_eq_ok_iff.mp h
    obtain ⟨is, his, -⟩ := bind_eq_ok_iff.mp h
    obtain ⟨hunshared, hlists⟩ := (resolveInstances_eq_ok_iff hnames.of_append_left
      hnames.of_append_right (resolveTemplates_ok hnames.of_append_left hts)).mp his
    refine ⟨(exists_resolveTemplates_iff ns hnames.of_append_left).mp ⟨ts, hts⟩, fun d hd ↦ ?_⟩
    obtain ⟨p, -, -, hresolves⟩ := Pairing.exists_right hlists hd
    exact ⟨hunshared d hd, p.2, hresolves⟩
  · rintro ⟨htemplates, hinstances⟩
    obtain ⟨ts, hts⟩ := (exists_resolveTemplates_iff ns hnames.of_append_left).mpr htemplates
    obtain ⟨is, his⟩ : ∃ is, Lists kind build templates instances is := by
      refine Pairing.exists_forall₂_iff.mpr fun d hd ↦ ?_
      obtain ⟨-, r, hresolves⟩ := hinstances d hd
      exact ⟨(name d, r), rfl, hresolves⟩
    have hshared : resolveInstances ns kind build ts instances = .ok is :=
      (resolveInstances_eq_ok_iff hnames.of_append_left hnames.of_append_right
        (resolveTemplates_ok hnames.of_append_left hts)).mpr
          ⟨fun d hd ↦ (hinstances d hd).1, his⟩
    exact ⟨⟨ts, is⟩, bind_eq_ok_iff.mpr ⟨ts, hts, bind_eq_ok_iff.mpr ⟨is, hshared, rfl⟩⟩⟩

end Resolution

end TelemetrySim
