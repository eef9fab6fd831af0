import Mathlib.Data.List.Perm.Basic
import TelemetrySim.Proofs.Resolution.Chain
import TelemetrySim.Proofs.Resolution.Invariant

/-!
Inheritance as a fixpoint. What a name stands for among the templates of a list is a relation of its
own (`Inherited`): it follows the bases and builds on the way back. The passes over the list compute
it, whatever the order of the list: the state between two passes is `Underway`, a pass keeps it
(`Underway.next`), and a pass that gets nowhere has exactly those templates left whose bases never
end. So resolving templates succeeds if and only if every template can be built on what it inherits
(`exists_resolveTemplates_iff`), and if building never fails, if and only if no template is based on
itself (`resolveTemplates_fixpoint`).
-/

set_option autoImplicit false
set_option relaxedAutoImplicit false

namespace TelemetrySim.Resolution

open Outcome
open Relation (TransGen)
open Declared (name base shared)

variable {δ ρ : Type} [Declared δ] {kind : EntityKind} {build : Build δ ρ} {ds : List δ} {d : δ}

/-! ### What is inherited -/

/-- What the name of a base stands for: nothing if there is no name, or else the template of that
name, built on what it inherits itself. -/
inductive Inherited (kind : EntityKind) (build : Build δ ρ) (ds : List δ) :
    Option String → Option ρ → Prop
  | nothing : Inherited kind build ds none none
  | template {d : δ} {b : Option ρ} {r : ρ} (hd : d ∈ ds)
      (hbase : Inherited kind build ds (base d) b)
      (hbuilt : build d b (trailOf ⟨kind, .template⟩ d) = .ok r) :
      Inherited kind build ds (some (name d)) (some r)

/-- A declaration, built on what it inherits, gives an entity. -/
def Resolves (kind : EntityKind) (origin : Origin) (build : Build δ ρ) (templates : List δ) (d : δ)
    (r : ρ) : Prop :=
  ∃ b, Inherited kind build templates (base d) b ∧ build d b (trailOf ⟨kind, origin⟩ d) = .ok r

theorem inherited_some_iff {n : String} {r : ρ} :
    Inherited kind build ds (some n) (some r) ↔
      ∃ d ∈ ds, name d = n ∧ Resolves kind .template build ds d r := by
  constructor
  · intro h
    cases h with
    | @template d b r hd hbase hbuilt => exact ⟨d, hd, rfl, b, hbase, hbuilt⟩
  · rintro ⟨d, hd, rfl, b, hbase, hbuilt⟩
    exact .template hd hbase hbuilt

theorem Inherited.unique (hnames : (ds.map name).Nodup) {n : Option String} {b b' : Option ρ}
    (h : Inherited kind build ds n b) (h' : Inherited kind build ds n b') : b = b' := by
  induction h generalizing b' with
  | nothing =>
    cases h'
    rfl
  | @template d b r hd hbase hbuilt ih =>
    generalize hn : some (name d) = n' at h'
    cases h' with
    | nothing => simp at hn
    | @template d' b' r' hd' hbase' hbuilt' =>
      obtain rfl : d = d' := eq_of_name_eq hnames hd hd' (Option.some_inj.mp hn)
      rw [ih hbase', hbuilt'] at hbuilt
      rw [Except.ok.inj hbuilt]

theorem Resolves.unique (hnames : (ds.map name).Nodup) {origin : Origin} {r r' : ρ}
    (h : Resolves kind origin build ds d r) (h' : Resolves kind origin build ds d r') : r = r' := by
  obtain ⟨b, hbase, hbuilt⟩ := h
  obtain ⟨b', hbase', hbuilt'⟩ := h'
  rw [hbase.unique hnames hbase', hbuilt'] at hbuilt
  exact (Except.ok.inj hbuilt).symm

/-- More templates, and building that succeeds more often, take nothing away. -/
theorem Inherited.mono {build' : Build δ ρ} {ds' : List δ} (hds : ds ⊆ ds')
    (hbuild : ∀ d b trail, Refines (build d b trail) (build' d b trail)) {n : Option String}
    {b : Option ρ} (h : Inherited kind build ds n b) : Inherited kind build' ds' n b := by
  induction h with
  | nothing => exact .nothing
  | template hd hbase hbuilt ih => exact .template (hds hd) ih (hbuild _ _ _ _ hbuilt)

theorem Resolves.mono {build' : Build δ ρ} {ds' : List δ} (hds : ds ⊆ ds')
    (hbuild : ∀ d b trail, Refines (build d b trail) (build' d b trail)) {origin : Origin} {r : ρ}
    (h : Resolves kind origin build ds d r) : Resolves kind origin build' ds' d r := by
  obtain ⟨b, hbase, hbuilt⟩ := h
  exact ⟨b, hbase.mono hds hbuild, hbuild _ _ _ _ hbuilt⟩

theorem Inherited.all {P : ρ → Prop} (hbuild : Keeps build P) {n : Option String} {b : Option ρ}
    (h : Inherited kind build ds n b) : ∀ r, b = some r → P r := by
  induction h with
  | nothing => simp
  | template hd hbase hbuilt ih =>
    intro r hr
    obtain rfl := Option.some_inj.mp hr
    exact hbuild ih hbuilt

theorem Inherited.chain {n : Option String} {b : Option ρ} (h : Inherited kind build ds n b) :
    ∃ l, Chain ds n l := by
  induction h with
  | nothing => exact ⟨[], .nil⟩
  | template hd hbase hbuilt ih =>
    obtain ⟨l, hl⟩ := ih
    exact ⟨_, .cons hd hl⟩

theorem Resolves.grounded {origin : Origin} {r : ρ} (h : Resolves kind origin build ds d r) :
    Grounded ds d := by
  obtain ⟨b, hbase, -⟩ := h
  exact grounded_iff_chain.mpr hbase.chain

/-! ### One pass -/

/-- Every entry of a table is what its name stands for. -/
def Sound (kind : EntityKind) (build : Build δ ρ) (ds : List δ) (table : List (String × ρ)) :
    Prop :=
  ∀ n r, table.lookup n = some r → Inherited kind build ds (some n) (some r)

section Pass

variable {resolved table : List (String × ρ)} {pending deferred : List δ}

theorem readyBase_eq_none_iff :
    readyBase resolved d = none ↔ ∃ b, base d = some b ∧ resolved.lookup b = none := by
  cases hbase : base d with
  | none => simp [readyBase, hbase]
  | some b => simp [readyBase, hbase]

theorem Sound.inherited (hsound : Sound kind build ds resolved) {b : Option ρ}
    (hready : readyBase resolved d = some b) : Inherited kind build ds (base d) b := by
  cases hbase : base d with
  | none =>
    obtain rfl : none = b := by simpa [readyBase, hbase] using hready
    exact .nothing
  | some n =>
    obtain ⟨r, hlookup, rfl⟩ : ∃ r, resolved.lookup n = some r ∧ some r = b := by
      simpa [readyBase, hbase] using hready
    exact hsound n r hlookup

theorem Sound.insert (hsound : Sound kind build ds resolved) (hd : d ∈ ds) {b : Option ρ} {r : ρ}
    (hready : readyBase resolved d = some b)
    (hbuilt : build d b (trailOf ⟨kind, .template⟩ d) = .ok r) :
    Sound kind build ds (Assoc.insert (name d) r resolved) := by
  intro n r' hlookup
  by_cases hn : n = name d
  · subst hn
    obtain rfl : r = r' := by simpa using hlookup
    exact .template hd (hsound.inherited hready) hbuilt
  · rw [Assoc.lookup_insert_of_ne hn] at hlookup
    exact hsound n r' hlookup

theorem pass_sublist {e : Entity} (h : pass e build pending resolved = .ok (table, deferred)) :
    deferred.Sublist pending := by
  induction pending generalizing resolved deferred with
  | nil =>
    obtain ⟨-, rfl⟩ : resolved = table ∧ [] = deferred := by
      simpa [pass, pure, Except.pure] using h
    exact .slnil
  | cons d rest ih =>
    rcases pass_cons_ok h with ⟨-, others, hrest, rfl⟩ | ⟨b, r, -, -, hrest⟩
    · exact (ih hrest).cons_cons d
    · exact (ih hrest).cons d

theorem pass_sound (hpending : ∀ d ∈ pending, d ∈ ds) (hsound : Sound kind build ds resolved)
    (h : pass ⟨kind, .template⟩ build pending resolved = .ok (table, deferred)) :
    Sound kind build ds table := by
  induction pending generalizing resolved deferred with
  | nil =>
    obtain ⟨rfl, -⟩ : resolved = table ∧ [] = deferred := by
      simpa [pass, pure, Except.pure] using h
    exact hsound
  | cons d rest ih =>
    have hrestds : ∀ d ∈ rest, d ∈ ds := fun d hd ↦ hpending d (by simp [hd])
    rcases pass_cons_ok h with ⟨-, others, hrest, -⟩ | ⟨b, r, hready, hbuilt, hrest⟩
    · exact ih hrestds hsound hrest
    · exact ih hrestds (hsound.insert (hpending d (by simp)) hready hbuilt) hrest

/-- A pass neither loses a name nor makes one up. -/
theorem pass_keys {e : Entity} (hfresh : (Assoc.keys resolved ++ pending.map name).Nodup)
    (h : pass e build pending resolved = .ok (table, deferred)) :
    (Assoc.keys table ++ deferred.map name).Perm (Assoc.keys resolved ++ pending.map name) := by
  induction pending generalizing resolved deferred with
  | nil =>
    obtain ⟨rfl, rfl⟩ : resolved = table ∧ [] = deferred := by
      simpa [pass, pure, Except.pure] using h
    exact .refl _
  | cons d rest ih =>
    rw [List.map_cons] at hfresh ⊢
    have hmoved : (Assoc.keys resolved ++ name d :: rest.map name).Perm
        (name d :: (Assoc.keys resolved ++ rest.map name)) := List.perm_middle
    obtain ⟨hnew, hothers⟩ := List.nodup_cons.mp (hmoved.nodup_iff.mp hfresh)
    rcases pass_cons_ok h with ⟨-, others, hrest, rfl⟩ | ⟨b, r, -, -, hrest⟩
    · rw [List.map_cons]
      exact List.perm_middle.trans (((ih hothers hrest).cons _).trans hmoved.symm)
    · have hkeys : Assoc.keys (Assoc.insert (name d) r resolved) =
          Assoc.keys resolved ++ [name d] := by
        rw [Assoc.keys_insert, if_neg fun hmem ↦ hnew (List.mem_append_left _ hmem)]
      have happend : Assoc.keys resolved ++ name d :: rest.map name =
          Assoc.keys (Assoc.insert (name d) r resolved) ++ rest.map name := by
        rw [hkeys, List.append_assoc, List.singleton_append]
      rw [happend] at hfresh ⊢
      exact ih hfresh hrest

/-- A pass that puts off everything changes nothing: no base was there. -/
theorem pass_stuck {e : Entity} (h : pass e build pending resolved = .ok (table, deferred))
    (hlength : deferred.length = pending.length) :
    table = resolved ∧ ∀ d ∈ pending, readyBase resolved d = none := by
  induction pending generalizing resolved deferred with
  | nil =>
    obtain ⟨rfl, -⟩ : resolved = table ∧ [] = deferred := by
      simpa [pass, pure, Except.pure] using h
    exact ⟨rfl, by simp⟩
  | cons d rest ih =>
    rcases pass_cons_ok h with ⟨hready, others, hrest, rfl⟩ | ⟨b, r, -, -, hrest⟩
    · obtain ⟨htable, hothers⟩ := ih hrest (by simpa using hlength)
      refine ⟨htable, fun d' hd' ↦ ?_⟩
      rcases List.mem_cons.mp hd' with rfl | hd'
      · exact hready
      · exact hothers d' hd'
    · have hle : deferred.length ≤ rest.length := (pass_sublist hrest).length_le
      rw [hlength, List.length_cons] at hle
      omega

/-- A pass fails only where building a template on what it inherits fails. -/
theorem pass_error {f : Failure} (hpending : ∀ d ∈ pending, d ∈ ds)
    (hsound : Sound kind build ds resolved)
    (h : pass ⟨kind, .template⟩ build pending resolved = .error f) :
    ∃ d ∈ ds, ∃ b, Inherited kind build ds (base d) b ∧
      build d b (trailOf ⟨kind, .template⟩ d) = .error f := by
  induction pending generalizing resolved with
  | nil => simp [pass, pure, Except.pure] at h
  | cons d rest ih =>
    have hd : d ∈ ds := hpending d (by simp)
    have hrestds : ∀ d ∈ rest, d ∈ ds := fun d hd ↦ hpending d (by simp [hd])
    rw [pass] at h
    cases hready : readyBase resolved d with
    | none =>
      rw [hready] at h
      rcases bind_eq_error_iff.mp h with hrest | ⟨next, -, hpair⟩
      · exact ih hrestds hsound hrest
      · simp [pure, Except.pure] at hpair
    | some b =>
      rw [hready] at h
      rcases bind_eq_error_iff.mp h with hbuilt | ⟨r, hbuilt, hrest⟩
      · exact ⟨d, hd, b, hsound.inherited hready, hbuilt⟩
      · exact ih hrestds (hsound.insert hd hready hbuilt) hrest

end Pass

/-! ### All passes -/

/-- The state between two passes over a list: what is resolved is what the names stand for, and
together with what is pending it is the whole list. -/
structure Underway (kind : EntityKind) (build : Build δ ρ) (ds pending : List δ)
    (resolved : List (String × ρ)) : Prop where
  sublist : pending.Sublist ds
  sound : Sound kind build ds resolved
  keys : (Assoc.keys resolved ++ pending.map name).Perm (ds.map name)

namespace Underway

variable {pending deferred : List δ} {resolved table : List (String × ρ)}

theorem start : Underway kind build ds ds [] where
  sublist := .refl ds
  sound := by
    intro n r h
    simp at h
  keys := .refl _

theorem next (hnames : (ds.map name).Nodup) (h : Underway kind build ds pending resolved)
    (hpass : pass ⟨kind, .template⟩ build pending resolved = .ok (table, deferred)) :
    Underway kind build ds deferred table where
  sublist := (pass_sublist hpass).trans h.sublist
  sound := pass_sound (fun _ hd ↦ h.sublist.subset hd) h.sound hpass
  keys := (pass_keys (h.keys.nodup_iff.mpr hnames) hpass).trans h.keys

theorem resolved_or_pending (hnames : (ds.map name).Nodup)
    (h : Underway kind build ds pending resolved) (hd : d ∈ ds) :
    (∃ r, resolved.lookup (name d) = some r) ∨ d ∈ pending := by
  have hmem : name d ∈ Assoc.keys resolved ++ pending.map name :=
    h.keys.mem_iff.mpr (List.mem_map_of_mem hd)
  rcases List.mem_append.mp hmem with hkey | hname
  · exact .inl (Assoc.mem_keys_iff.mp hkey)
  · obtain ⟨d', hd', hsame⟩ := List.mem_map.mp hname
    obtain rfl := eq_of_name_eq hnames (h.sublist.subset hd') hd hsame
    exact .inr hd'

/-- What has been resolved has been built. -/
theorem resolves (hnames : (ds.map name).Nodup) (h : Underway kind build ds pending resolved)
    (hd : d ∈ ds) {r : ρ} (hlookup : resolved.lookup (name d) = some r) :
    Resolves kind .template build ds d r := by
  obtain ⟨d', hd', hsame, hresolves⟩ := inherited_some_iff.mp (h.sound _ r hlookup)
  obtain rfl := eq_of_name_eq hnames hd' hd hsame
  exact hresolves

/-- When no pending template finds its base, their bases are among them. -/
theorem mem_pending_iff (hnames : (ds.map name).Nodup)
    (h : Underway kind build ds pending resolved)
    (hstuck : ∀ d ∈ pending, readyBase resolved d = none) (hd : d ∈ ds) :
    d ∈ pending ↔ ¬ Grounded ds d := by
  constructor
  · refine not_grounded_of_closed (fun d hd ↦ ?_) (fun d hd d' hbased ↦ ?_)
    · obtain ⟨b, hbase, -⟩ := readyBase_eq_none_iff.mp (hstuck d hd)
      simp [hbase]
    · obtain ⟨b, hbase, hmissing⟩ := readyBase_eq_none_iff.mp (hstuck d hd)
      obtain rfl : name d' = b := Option.some_inj.mp (hbased.2 ▸ hbase)
      rcases h.resolved_or_pending hnames hbased.1 with ⟨r, hlookup⟩ | hpending
      · simp [hmissing] at hlookup
      · exact hpending
  · intro hlost
    rcases h.resolved_or_pending hnames hd with ⟨r, hlookup⟩ | hpending
    · exact absurd (h.resolves hnames hd hlookup).grounded hlost
    · exact hpending

/-- When nothing is pending, every template is in the table, and it has been built. -/
theorem exists_resolves (hnames : (ds.map name).Nodup) (h : Underway kind build ds [] table)
    (hd : d ∈ ds) :
    ∃ r, table.lookup (name d) = some r ∧ Resolves kind .template build ds d r := by
  rcases h.resolved_or_pending hnames hd with ⟨r, hlookup⟩ | hpending
  · exact ⟨r, hlookup, h.resolves hnames hd hlookup⟩
  · simp at hpending

/-- A table in which nothing is pending has the names of the templates. -/
theorem mem_keys_iff (h : Underway kind build ds [] table) {n : String} :
    n ∈ Assoc.keys table ↔ n ∈ ds.map name := by
  have hkeys := h.keys
  rw [List.map_nil, List.append_nil] at hkeys
  exact hkeys.mem_iff

/-- Such a table says of every name what it stands for. -/
theorem lookup_iff (hnames : (ds.map name).Nodup) (h : Underway kind build ds [] table)
    {n : String} {r : ρ} :
    table.lookup n = some r ↔ Inherited kind build ds (some n) (some r) := by
  refine ⟨h.sound n r, fun hinherited ↦ ?_⟩
  obtain ⟨d, hd, rfl, -⟩ := inherited_some_iff.mp hinherited
  obtain ⟨r', hlookup, -⟩ := h.exists_resolves hnames hd
  obtain rfl : r' = r := Option.some_inj.mp ((h.sound _ _ hlookup).unique hnames hinherited)
  exact hlookup

/-- In such a table every base is found as what it stands for. -/
theorem readyBase_iff (hnames : (ds.map name).Nodup) (h : Underway kind build ds [] table)
    {b : Option ρ} :
    readyBase table d = some b ↔ Inherited kind build ds (base d) b := by
  refine ⟨h.sound.inherited, fun hinherited ↦ ?_⟩
  cases hname : base d with
  | none =>
    rw [hname] at hinherited
    cases hinherited
    simp [readyBase, hname]
  | some n =>
    rw [hname] at hinherited
    cases hinherited with
    | template hd hbase hbuilt =>
      have hfound := (h.lookup_iff hnames).mpr (.template hd hbase hbuilt)
      simp [readyBase, hname, hfound]

theorem mono {build' : Build δ ρ}
    (hbuild : ∀ d b trail, Refines (build d b trail) (build' d b trail))
    (h : Underway kind build ds pending resolved) : Underway kind build' ds pending resolved where
  sublist := h.sublist
  sound n r hlookup := (h.sound n r hlookup).mono (List.Subset.refl _) hbuild
  keys := h.keys

end Underway

theorem passes_ok (hnames : (ds.map name).Nodup) {pending : List δ}
    {resolved table : List (String × ρ)} (hunderway : Underway kind build ds pending resolved)
    (h : passes ⟨kind, .template⟩ build pending resolved = .ok table) :
    Underway kind build ds [] table := by
  fun_induction passes (⟨kind, .template⟩ : Entity) build pending resolved with
  | case1 pending resolved hempty =>
    obtain rfl : pending = [] := by simpa using hempty
    obtain rfl := Except.ok.inj h
    exact hunderway
  | case2 pending resolved hpending failure hfailure => simp at h
  | case3 pending resolved hpending next deferred hpass hless ih =>
    exact ih (hunderway.next hnames hpass) h
  | case4 pending resolved hpending next deferred hpass hstuck => simp [fails] at h

open Classical in
/-- The templates whose bases never end, in the order of the list. -/
noncomputable def ungrounded (ds : List δ) : List δ := ds.filter fun d ↦ ¬ Grounded ds d

theorem mem_ungrounded_iff : d ∈ ungrounded ds ↔ d ∈ ds ∧ ¬ Grounded ds d := by
  simp [ungrounded]

theorem eq_ungrounded (hnames : (ds.map name).Nodup) {stuck : List δ} (hsublist : stuck.Sublist ds)
    (hstuck : ∀ d ∈ ds, d ∈ stuck ↔ ¬ Grounded ds d) : stuck = ungrounded ds := by
  classical
  have hnodup : ds.Nodup := hnames.of_map _
  have hfilter : stuck.filter (fun d ↦ ¬ Grounded ds d) = stuck := by
    refine List.filter_eq_self.mpr fun d hd ↦ ?_
    simpa using (hstuck d (hsublist.subset hd)).mp hd
  have hinto : stuck.Sublist (ungrounded ds) := by
    rw [← hfilter]
    exact hsublist.filter _
  have hperm : stuck.Perm (ungrounded ds) := by
    refine (List.perm_ext_iff_of_nodup (hsublist.nodup hnodup) (hnodup.filter _)).mpr fun d ↦ ?_
    refine Iff.trans ?_ mem_ungrounded_iff.symm
    exact ⟨fun hd ↦ ⟨hsublist.subset hd, (hstuck d (hsublist.subset hd)).mp hd⟩,
      fun hd ↦ (hstuck d hd.1).mpr hd.2⟩
  exact hinto.eq_of_length hperm.length_eq

/-- The passes fail where building fails, or with the templates whose bases never end. -/
theorem passes_error (hnames : (ds.map name).Nodup) {pending : List δ}
    {resolved : List (String × ρ)} (hunderway : Underway kind build ds pending resolved)
    {f : Failure} (h : passes ⟨kind, .template⟩ build pending resolved = .error f) :
    (∃ d ∈ ds, ∃ b, Inherited kind build ds (base d) b ∧
        build d b (trailOf ⟨kind, .template⟩ d) = .error f) ∨
      (∃ d ∈ ds, ¬ Grounded ds d) ∧ f = ⟨.cycle kind ((ungrounded ds).map name), []⟩ := by
  fun_induction passes (⟨kind, .template⟩ : Entity) build pending resolved with
  | case1 pending resolved hempty => simp [pure, Except.pure] at h
  | case2 pending resolved hpending failure hfailure =>
    obtain rfl := Except.error.inj h
    exact .inl (pass_error (fun _ hd ↦ hunderway.sublist.subset hd) hunderway.sound hfailure)
  | case3 pending resolved hpending next deferred hpass hless ih =>
    exact ih (hunderway.next hnames hpass) h
  | case4 pending resolved hpending next deferred hpass hstuck =>
    have hsublist := pass_sublist hpass
    have hlength : deferred.length = pending.length := by
      have := hsublist.length_le
      omega
    obtain rfl : deferred = pending := hsublist.eq_of_length hlength
    obtain ⟨-, hmissing⟩ := pass_stuck hpass hlength
    have hiff : ∀ d ∈ ds, d ∈ deferred ↔ ¬ Grounded ds d :=
      fun d hd ↦ hunderway.mem_pending_iff hnames hmissing hd
    refine .inr ⟨?_, ?_⟩
    · obtain ⟨d, hd⟩ : ∃ d, d ∈ deferred :=
        List.exists_mem_of_ne_nil _ (by simpa using hpending)
      have hmem := hunderway.sublist.subset hd
      exact ⟨d, hmem, (hiff d hmem).mp hd⟩
    · rw [← eq_ungrounded hnames hunderway.sublist hiff]
      exact (Except.error.inj h).symm

/-! ### Termination -/

/-- The loop of passes, cut off after a number of them. It fails as soon as a pass puts off as many
templates as were pending; that a pass can put off no more than that is not used. -/
def passesWithin (e : Entity) (build : Build δ ρ) :
    Nat → List δ → List (String × ρ) → Option (Resolved (List (String × ρ)))
  | 0, _, _ => none
  | n + 1, pending, resolved =>
    if pending.isEmpty then some (pure resolved)
    else
      match pass e build pending resolved with
      | .error failure => some (.error failure)
      | .ok (resolved, deferred) =>
        if deferred.length = pending.length then some (fails [] (.cycle e.kind (deferred.map name)))
        else passesWithin e build n deferred resolved

/-- As many passes as there are templates are enough. -/
theorem passesWithin_eq (e : Entity) (build : Build δ ρ) {n : Nat} {pending : List δ}
    (hn : pending.length < n) (resolved : List (String × ρ)) :
    passesWithin e build n pending resolved = some (passes e build pending resolved) := by
  induction n generalizing pending resolved with
  | zero => omega
  | succ n ih =>
    rw [passesWithin, passes]
    split
    · rfl
    · cases hpass : pass e build pending resolved with
      | error failure => rfl
      | ok out =>
        obtain ⟨next, deferred⟩ := out
        have hle := (pass_sublist hpass).length_le
        dsimp only
        by_cases hlength : deferred.length = pending.length
        · rw [if_pos hlength, if_neg (by omega)]
        · rw [if_neg hlength, if_pos (by omega)]
          exact ih (by omega) next

/-! ### Resolving templates -/

theorem checkTemplates_eq_ok_iff (ns : Namespace) {e : Entity} :
    checkTemplates ns e ds = .ok () ↔ (∀ d ∈ ds, shared d = none) ∧ BasesDeclared ds := by
  rw [checkTemplates, forM_eq_ok_iff]
  refine Iff.trans (b := ∀ d ∈ ds, shared d = none ∧
    ∀ b, base d = some b → ∃ d' ∈ ds, name d' = b) (forall₂_congr fun d _ ↦ ?_) ?_
  · cases hshared : shared d with
    | some s => simp [checkDeclaration, hshared, fails, bind, Except.bind]
    | none =>
      cases hbase : base d with
      | none => simp [checkDeclaration, hshared, pure, Except.pure, bind, Except.bind]
      | some b =>
        by_cases hany : ∃ d' ∈ ds, name d' = b
        · simp [checkDeclaration, hshared, pure, Except.pure, bind, Except.bind, hany]
        · simp [checkDeclaration, hshared, pure, Except.pure, bind, Except.bind, hany, fails]
  · exact ⟨fun h ↦ ⟨fun d hd ↦ (h d hd).1, fun d hd ↦ (h d hd).2⟩,
      fun h d hd ↦ ⟨h.1 d hd, h.2 d hd⟩⟩

theorem resolveTemplates_eq_ok_iff {ns : Namespace} {table : List (String × ρ)} :
    resolveTemplates ns kind build ds = .ok table ↔
      (∀ d ∈ ds, shared d = none) ∧ BasesDeclared ds ∧
        passes ⟨kind, .template⟩ build ds [] = .ok table := by
  rw [resolveTemplates, bind_eq_ok_iff, ← and_assoc, ← checkTemplates_eq_ok_iff ns]
  exact ⟨fun ⟨_, hcheck, hpasses⟩ ↦ ⟨hcheck, hpasses⟩,
    fun ⟨hcheck, hpasses⟩ ↦ ⟨(), hcheck, hpasses⟩⟩

theorem resolveTemplates_ok (hnames : (ds.map name).Nodup) {ns : Namespace}
    {table : List (String × ρ)} (h : resolveTemplates ns kind build ds = .ok table) :
    Underway kind build ds [] table :=
  passes_ok hnames .start (resolveTemplates_eq_ok_iff.mp h).2.2

/-- Templates can be resolved if and only if each can be built on what it inherits. -/
theorem exists_resolveTemplates_iff (ns : Namespace) (hnames : (ds.map name).Nodup) :
    (∃ table, resolveTemplates ns kind build ds = .ok table) ↔
      ∀ d ∈ ds, shared d = none ∧ ∃ r, Resolves kind .template build ds d r := by
  constructor
  · rintro ⟨table, h⟩ d hd
    obtain ⟨r, -, hresolves⟩ := (resolveTemplates_ok hnames h).exists_resolves hnames hd
    exact ⟨(resolveTemplates_eq_ok_iff.mp h).1 d hd, r, hresolves⟩
  · intro h
    have hbases : BasesDeclared ds := by
      intro d hd n hbase
      obtain ⟨-, r, b, hinherited, -⟩ := h d hd
      rw [hbase] at hinherited
      cases hinherited with
      | @template d' b r' hd' _ _ => exact ⟨d', hd', rfl⟩
    cases hpasses : passes ⟨kind, .template⟩ build ds [] with
    | ok table =>
      exact ⟨table, resolveTemplates_eq_ok_iff.mpr ⟨fun d hd ↦ (h d hd).1, hbases, hpasses⟩⟩
    | error f =>
      rcases passes_error hnames .start hpasses with ⟨d, hd, b, hinherited, hfails⟩ | ⟨hlost, -⟩
      · obtain ⟨-, r, b', hinherited', hbuilt⟩ := h d hd
        rw [hinherited.unique hnames hinherited', hbuilt] at hfails
        simp at hfails
      · obtain ⟨d, hd, hlost⟩ := hlost
        obtain ⟨-, r, hresolves⟩ := h d hd
        exact absurd hresolves.grounded hlost

end TelemetrySim.Resolution
