import Mathlib.Data.List.Perm.Basic
import TelemetrySim.Expansion
import TelemetrySim.Proofs.Outcome
import TelemetrySim.Proofs.Pairing

/-!
Expansion entry by entry. The copies of a list are the copies of its entries one after the other
(`expandEntries_eq_ok_iff`), so the order of the entries decides only the order of the blocks
(`expandEntries_perm`) and more entries only add blocks (`expandEntries_sublist`). Every copy is an
entry with other texts at most (`IsCopy`).
-/

set_option autoImplicit false
set_option relaxedAutoImplicit false

namespace TelemetrySim

open Outcome

namespace Expansion

variable {α : Type} [Scanned α] {r : Registry} {s : Decl.Section} {entries entries' out : List α}

/-! ### Single entries -/

section Entry

variable {a : α} {copies : List α}

theorem expandEntry_of_nil (hnames : Scanned.placeholders a = []) :
    expandEntry r a = .ok [a] := by
  rw [expandEntry, hnames]
  rfl

/-- An entry with placeholders is copied if they are declared, and if their combinations can be
counted and are not none. -/
theorem expandEntry_eq_ok_iff (hnames : Scanned.placeholders a ≠ []) :
    expandEntry r a = .ok copies ↔
      ∃ c n shown, r.combinations (Scanned.placeholders a) = .ok c ∧ c.total = .ok n ∧ n ≠ 0 ∧
        c.all = .ok shown ∧
          shown.map (fun x ↦ Scanned.mapTexts (Placeholder.substitute x) a) = copies := by
  simp only [expandEntry, List.isEmpty_iff, hnames, if_false, bind_eq_ok_iff, mapError_eq_ok_iff]
  constructor
  · rintro ⟨c, hc, n, hn, h⟩
    by_cases hzero : n = 0
    · simp [hzero] at h
    · rw [if_neg hzero] at h
      obtain ⟨shown, hshown, h⟩ := bind_eq_ok_iff.mp h
      exact ⟨c, n, shown, hc, hn, hzero, mapError_eq_ok_iff.mp hshown, Except.ok.inj h⟩
  · rintro ⟨c, n, shown, hc, hn, hzero, hshown, rfl⟩
    refine ⟨c, hc, n, hn, ?_⟩
    rw [if_neg hzero]
    exact bind_eq_ok_iff.mpr ⟨shown, mapError_eq_ok_iff.mpr hshown, rfl⟩

end Entry

/-! ### Lists of entries -/

theorem expandFrom_eq_ok_iff {i : Nat} :
    expandFrom r s i entries = .ok out ↔
      ∃ blocks, List.Forall₂ (fun a copies ↦ expandEntry r a = .ok copies) entries blocks ∧
        blocks.flatten = out := by
  -- The index is for errors only, so it does not show on the right.
  induction entries generalizing i out with
  | nil =>
    simp only [expandFrom, List.forall₂_nil_left_iff, exists_eq_left, List.flatten_nil]
    exact ⟨Except.ok.inj, congrArg _⟩
  | cons a rest ih =>
    simp only [expandFrom, bind_eq_ok_iff, mapError_eq_ok_iff, ih]
    constructor
    · rintro ⟨copies, ha, others, ⟨blocks, hrest, rfl⟩, hout⟩
      exact ⟨copies :: blocks, .cons ha hrest, Except.ok.inj hout⟩
    · rintro ⟨blocks, hblocks, rfl⟩
      cases hblocks with
      | @cons _ copies _ others ha hrest =>
        exact ⟨copies, ha, others.flatten, ⟨others, hrest, rfl⟩, rfl⟩

/-- The copies of a list are the copies of its entries, one block after the other. -/
theorem expandEntries_eq_ok_iff :
    expandEntries r s entries = .ok out ↔
      ∃ blocks, List.Forall₂ (fun a copies ↦ expandEntry r a = .ok copies) entries blocks ∧
        blocks.flatten = out :=
  expandFrom_eq_ok_iff

/-- Entries in another order have the same copies, in another order. -/
theorem expandEntries_perm (hperm : entries.Perm entries')
    (h : expandEntries r s entries = .ok out) :
    ∃ out', expandEntries r s entries' = .ok out' ∧ out.Perm out' := by
  obtain ⟨blocks, hblocks, rfl⟩ := expandEntries_eq_ok_iff.mp h
  obtain ⟨blocks', hblocks', hmoved⟩ := List.perm_comp_forall₂ hperm.symm hblocks
  exact ⟨blocks'.flatten, expandEntries_eq_ok_iff.mpr ⟨blocks', hblocks', rfl⟩,
    hmoved.symm.flatten⟩

/-- Entries that are added leave the copies of the others as they are and in their order. -/
theorem expandEntries_sublist (hsublist : entries.Sublist entries') {out' : List α}
    (h : expandEntries r s entries = .ok out) (h' : expandEntries r s entries' = .ok out') :
    out.Sublist out' := by
  obtain ⟨blocks, hblocks, rfl⟩ := expandEntries_eq_ok_iff.mp h
  obtain ⟨blocks', hblocks', rfl⟩ := expandEntries_eq_ok_iff.mp h'
  clear h h'
  induction hsublist generalizing blocks blocks' with
  | slnil =>
    cases hblocks
    exact List.nil_sublist _
  | cons a _ ih =>
    cases hblocks' with
    | @cons _ copies _ others _ hrest =>
      rw [List.flatten_cons]
      exact (ih blocks hblocks others hrest).trans (List.sublist_append_right _ _)
  | cons_cons a _ ih =>
    cases hblocks with
    | @cons _ copies _ others ha hrest =>
      cases hblocks' with
      | @cons _ copies' _ others' ha' hrest' =>
        obtain rfl : copies = copies' := Except.ok.inj (ha.symm.trans ha')
        exact (ih others hrest others' hrest').append_left copies

/-! ### Copies -/

/-- The assignments that the copies of an entry are made with. -/
def MadeWith (r : Registry) (a : α) (x : Assignment) : Prop :=
  ∃ c shown, r.combinations (Scanned.placeholders a) = .ok c ∧ c.all = .ok shown ∧ x ∈ shown

/-- Each copy is made with one of the assignments, but for an entry without placeholders. -/
theorem madeWith_of_mem_expandEntry {a b : α} {copies : List α}
    (h : expandEntry r a = .ok copies) (hb : b ∈ copies) :
    (Scanned.placeholders a = [] ∧ b = a) ∨
      ∃ x, MadeWith r a x ∧ b = Scanned.mapTexts (Placeholder.substitute x) a := by
  by_cases hnames : Scanned.placeholders a = []
  · obtain rfl := Except.ok.inj ((expandEntry_of_nil hnames).symm.trans h)
    exact .inl ⟨hnames, List.mem_singleton.mp hb⟩
  · obtain ⟨c, n, shown, hc, -, -, hshown, rfl⟩ := (expandEntry_eq_ok_iff hnames).mp h
    obtain ⟨x, hx, rfl⟩ := List.mem_map.mp hb
    exact .inr ⟨x, ⟨c, shown, hc, hshown, hx⟩, rfl⟩

/-- A copy is the entry itself, or the entry with other texts. -/
def IsCopy (a b : α) : Prop := b = a ∨ ∃ f, b = Scanned.mapTexts f a

theorem isCopy_of_expandEntry {a b : α} {copies : List α} (h : expandEntry r a = .ok copies)
    (hb : b ∈ copies) : IsCopy a b := by
  obtain ⟨-, heq⟩ | ⟨x, -, heq⟩ := madeWith_of_mem_expandEntry h hb
  · exact .inl heq
  · exact .inr ⟨_, heq⟩

/-- Every copy comes from an entry of the list. -/
theorem isCopy_of_expandEntries (h : expandEntries r s entries = .ok out) {b : α} (hb : b ∈ out) :
    ∃ a ∈ entries, IsCopy a b := by
  obtain ⟨blocks, hblocks, rfl⟩ := expandEntries_eq_ok_iff.mp h
  obtain ⟨copies, hcopies, hb⟩ := List.mem_flatten.mp hb
  obtain ⟨a, ha, hexpand⟩ := Pairing.exists_left hblocks hcopies
  exact ⟨a, ha, isCopy_of_expandEntry hexpand hb⟩

end Expansion

/-! ### Documents -/

open Expansion

/-- A document expands to another: the lists do, and the rest stays. -/
structure Decl.Document.ExpandsTo (r : Registry) (d x : Decl.Document) : Prop where
  templateClocks : expandEntries r .templateClocks d.templates.clocks = .ok x.templates.clocks
  templateSources : expandEntries r .templateSources d.templates.sources = .ok x.templates.sources
  templateValues : expandEntries r .templateValues d.templates.values = .ok x.templates.values
  templateMetrics : expandEntries r .templateMetrics d.templates.metrics = .ok x.templates.metrics
  instanceClocks : expandEntries r .instanceClocks d.instances.clocks = .ok x.instances.clocks
  instanceSources : expandEntries r .instanceSources d.instances.sources = .ok x.instances.sources
  instanceValues : expandEntries r .instanceValues d.instances.values = .ok x.instances.values
  metrics : expandEntries r .metrics d.metrics = .ok x.metrics
  iterators : x.iterators = d.iterators
  exporter : x.exporter = d.exporter
  settings : x.settings = d.settings

theorem Decl.Document.expand_eq_ok_iff {d x : Decl.Document} :
    d.expand = .ok x ↔ ∃ r, Registry.ofDomains d.iterators = .ok r ∧ ExpandsTo r d x := by
  rw [expand, bind_eq_ok_iff]
  refine exists_congr fun r ↦ and_congr_right fun _ ↦ ?_
  constructor
  · intro h
    obtain ⟨_, hclocks, h⟩ := bind_eq_ok_iff.mp h
    obtain ⟨_, hsources, h⟩ := bind_eq_ok_iff.mp h
    obtain ⟨_, hvalues, h⟩ := bind_eq_ok_iff.mp h
    obtain ⟨_, hbases, h⟩ := bind_eq_ok_iff.mp h
    obtain ⟨_, hsharedClocks, h⟩ := bind_eq_ok_iff.mp h
    obtain ⟨_, hsharedSources, h⟩ := bind_eq_ok_iff.mp h
    obtain ⟨_, hsharedValues, h⟩ := bind_eq_ok_iff.mp h
    obtain ⟨_, hmetrics, h⟩ := bind_eq_ok_iff.mp h
    obtain rfl := Except.ok.inj h
    exact ⟨hclocks, hsources, hvalues, hbases, hsharedClocks, hsharedSources, hsharedValues,
      hmetrics, rfl, rfl, rfl⟩
  · intro h
    rw [h.templateClocks, h.templateSources, h.templateValues, h.templateMetrics,
      h.instanceClocks, h.instanceSources, h.instanceValues, h.metrics, ← h.iterators,
      ← h.exporter, ← h.settings]
    rfl

end TelemetrySim
