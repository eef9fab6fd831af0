import Mathlib.Data.List.Chain
import TelemetrySim.Proofs.Resolution.Claims
import TelemetrySim.Proofs.Resolution.Mistake

/-!
Ways through an expanded document. A way leads from a declaration or a metric through references,
each of them inside the one before it, and passes the templates that they name (`Way`). As every
reference is of a later kind than those inside it, a way passes each kind of template once at most,
in a fixed order (`Way.templates_sublist`).
-/

set_option autoImplicit false
set_option relaxedAutoImplicit false

namespace TelemetrySim

/-! ### Declarations by their lists -/

namespace Decl

/-- What the entries of a list are declared as. Metrics are not declared for others. -/
def Section.entity? : Section → Option Entity
  | .templateClocks => some ⟨.clock, .template⟩
  | .templateSources => some ⟨.source, .template⟩
  | .templateValues => some ⟨.value, .template⟩
  | .templateMetrics => some ⟨.metric, .template⟩
  | .instanceClocks => some ⟨.clock, .shared⟩
  | .instanceSources => some ⟨.source, .shared⟩
  | .instanceValues => some ⟨.value, .shared⟩
  | .metrics => none

/-- The name of an entry in messages. -/
def Entry.title : Entry → String
  | metric m => m.name.prometheus
  | e => e.name?.getD ""

/-- The frame for an entry of a list. -/
def Section.frame (s : Section) (e : Entry) : Frame :=
  match s.entity? with
  | some d => d.frame e.title
  | none => ⟨"metric", e.title⟩

theorem Section.eq_of_entity? {s s' : Section} (h : s.entity? = s'.entity?) : s = s' := by
  cases s <;> cases s' <;> first | rfl | exact absurd h (by decide)

theorem Document.claims_eq (x : Document) : x.claims =
    [Section.templateClocks, .instanceClocks, .templateSources, .instanceSources, .templateValues,
      .instanceValues, .templateMetrics].flatMap fun s ↦
        s.entity?.toList.flatMap fun e ↦ (x.entries s).map fun d ↦ (d.title, e) := by
  simp [claims, claimsUpTo, claimsOf, Resolution.claims, entries, Section.entity?, Entry.title,
    Entry.name?, Declared.name, Function.comp_def]

/-- A name is claimed for an entity by an entry of its list. -/
theorem Document.mem_claims_iff {x : Document} {n : String} {e : Entity} :
    (n, e) ∈ x.claims ↔ ∃ s : Section, s.entity? = some e ∧ ∃ d ∈ x.entries s, d.title = n := by
  rw [claims_eq]
  constructor
  · intro h
    obtain ⟨s, -, h⟩ := List.mem_flatMap.mp h
    obtain ⟨e', he, h⟩ := List.mem_flatMap.mp h
    obtain ⟨d, hd, hpair⟩ := List.mem_map.mp h
    obtain ⟨rfl, rfl⟩ := Prod.mk.inj hpair
    exact ⟨s, Option.mem_toList.mp he, d, hd, rfl⟩
  · rintro ⟨s, he, d, hd, rfl⟩
    refine List.mem_flatMap.mpr ⟨s, ?_, ?_⟩
    · cases s <;> simp_all [Section.entity?]
    · exact List.mem_flatMap.mpr ⟨e, Option.mem_toList.mpr he, List.mem_map.mpr ⟨d, hd, rfl⟩⟩

/-! ### References by their kinds -/

namespace Entry

/-- The references that an entry starts with: those that it holds, and for a metric the metric, as
it names its template itself. -/
def references : Entry → List Entry
  | metric m => [metric m]
  | e => e.parts

theorem rank_lt_of_mem_parts {e r : Entry} (h : r ∈ e.parts) : r.kind.rank < e.kind.rank := by
  cases e with
  | clock c => simp [parts] at h
  | source s =>
    obtain ⟨c, -, rfl⟩ := List.mem_map.mp h
    exact Nat.zero_lt_one
  | value v =>
    rcases List.mem_append.mp h with h | h
    · obtain ⟨s, -, rfl⟩ := List.mem_map.mp h
      exact Nat.one_lt_two
    · obtain ⟨c, -, rfl⟩ := List.mem_map.mp h
      exact Nat.zero_lt_two
  | metricTemplate m =>
    obtain ⟨v, -, rfl⟩ := List.mem_map.mp h
    exact Nat.lt_succ_self 2
  | metric m =>
    obtain ⟨v, -, rfl⟩ := List.mem_map.mp h
    exact Nat.lt_succ_self 2

/-- Each entry is a reference that the one before it holds. -/
def Nested (route : List Entry) : Prop := route.IsChain fun e r ↦ r ∈ e.parts

end Entry

theorem Document.kind_of_mem_entries {x : Document} {s : Section} {e : Entity}
    (h : s.entity? = some e) {d : Entry} (hd : d ∈ x.entries s) :
    d.kind = e.kind ∧ d.references = d.parts := by
  cases s with
  | metrics => simp [Section.entity?] at h
  | _ =>
    obtain ⟨a, -, rfl⟩ := List.mem_map.mp hd
    obtain rfl := Option.some_inj.mp h
    exact ⟨rfl, rfl⟩

end Decl

/-- The kinds before a kind, the last of them first. -/
def EntityKind.earlier : EntityKind → List EntityKind
  | clock => []
  | source => [clock]
  | value => [source, clock]
  | metric => [value, source, clock]

theorem EntityKind.sublist_earlier {k : EntityKind} {l : List EntityKind}
    (h : (k :: l).IsChain fun i j ↦ j.rank < i.rank) : l.Sublist k.earlier := by
  induction l generalizing k with
  | nil => exact List.nil_sublist _
  | cons j l ih =>
    obtain ⟨hrank, hrest⟩ := List.isChain_cons_cons.mp h
    have hj : (j :: j.earlier).Sublist k.earlier := by
      cases k <;> cases j <;> first | decide | exact absurd hrank (by decide)
    exact ((ih hrest).cons_cons j).trans hj

namespace Decl.Entry

/-- References that are nested have kinds in this order. -/
theorem Nested.kinds_sublist {route : List Entry} (h : Nested route) :
    (route.map kind).Sublist [.metric, .value, .source, .clock] := by
  have hranks : (route.map kind).IsChain fun i j ↦ j.rank < i.rank :=
    (List.isChain_map kind).mpr (h.imp fun _ _ ↦ rank_lt_of_mem_parts)
  cases hkinds : route.map kind with
  | nil => exact List.nil_sublist _
  | cons k l =>
    rw [hkinds] at hranks
    have hk : (k :: k.earlier).Sublist [.metric, .value, .source, .clock] := by
      cases k <;> decide
    exact ((EntityKind.sublist_earlier hranks).cons_cons k).trans hk

theorem templates_sublist (route : List Entry) :
    ((route.flatMap templates).map (·.2)).Sublist
      ((route.map kind).map fun k ↦ ⟨k, .template⟩) := by
  induction route with
  | nil => exact .slnil
  | cons r rest ih =>
    rw [List.flatMap_cons, List.map_append]
    cases hbase : r.base? with
    | none =>
      rw [templates_of_none hbase]
      exact ih.cons _
    | some n =>
      rw [templates_of_some hbase]
      exact ih.cons_cons _

end Decl.Entry

/-! ### Ways -/

open Decl

/-- A way into the references of a declaration or a metric of a document. It goes from reference to
reference, each inside the one before it, and every template that one of them names is declared. -/
structure Way (x : Document) where
  list : Section
  entry : Entry
  route : List Entry
  mem : entry ∈ x.entries list
  start : ∀ r ∈ route.head?, r ∈ entry.references
  nested : Entry.Nested route
  declared : ∀ p ∈ route.flatMap Entry.templates, p ∈ x.claims

namespace Way

variable {x : Document}

/-- The templates on the way. -/
def templates (w : Way x) : List (String × Entity) := w.route.flatMap Entry.templates

/-- The frames on the way: one for where it starts and one for each template. -/
def frames (w : Way x) : List Frame := w.list.frame w.entry :: w.templates.map frameOf

/-- A way passes templates of these kinds in this order. -/
theorem templates_sublist (w : Way x) : (w.templates.map (·.2)).Sublist
    [⟨.metric, .template⟩, ⟨.value, .template⟩, ⟨.source, .template⟩, ⟨.clock, .template⟩] :=
  (Entry.templates_sublist w.route).trans (w.nested.kinds_sublist.map _)

theorem length_frames_le (w : Way x) : w.frames.length ≤ 5 := by
  have hlength := w.templates_sublist.length_le
  rw [List.length_map] at hlength
  rw [frames, List.length_cons, List.length_map]
  exact Nat.succ_le_succ hlength

/-- A way starts at a declaration or at a metric. -/
theorem start_frame (w : Way x) : (∃ p ∈ x.claims, w.list.frame w.entry = frameOf p) ∨
    ∃ m ∈ x.metrics, w.list.frame w.entry = ⟨"metric", m.name.prometheus⟩ := by
  cases hentity : w.list.entity? with
  | some e =>
    refine .inl ⟨(w.entry.title, e), ?_, ?_⟩
    · exact Document.mem_claims_iff.mpr ⟨w.list, hentity, w.entry, w.mem, rfl⟩
    · rw [Section.frame, hentity]
      rfl
  | none =>
    have hlist : w.list = .metrics := Section.eq_of_entity? hentity
    have hmem := w.mem
    rw [hlist] at hmem
    obtain ⟨m, hm, hentry⟩ := List.mem_map.mp hmem
    refine .inr ⟨m, hm, ?_⟩
    rw [hlist, ← hentry]
    rfl

end Way

end TelemetrySim
