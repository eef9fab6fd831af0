import TelemetrySim.Proofs.Mention

/-!
What is left of placeholders after expansion. The texts of an expanded document are those of the
document with values written for the names (`ExpandsTo.scans_iff`). They are not looked through
again, so a placeholder can come out of a value, or of the text around one. None does if the values
have no part in one (`Inert`) and no text has the front of one right before a placeholder
(`Cut.Guarded`); a document without placeholders is expanded to itself (`leaves_of_expand`).
-/

set_option autoImplicit false
set_option relaxedAutoImplicit false

namespace TelemetrySim

/-! ### Placeholders that arise between texts -/

namespace Placeholder

/-- The text ends in the front of a placeholder: a brace, and what a name can start with. -/
def Opens (cs : List Char) : Prop :=
  ∃ front, '\x7b' :: front <:+ cs ∧ (front = [] ∨ Identifier front)

/-- No placeholder is inside the text, and none starts in it. -/
def Inert (v : String) : Prop := Plain v.toList ∧ ¬ Opens v.toList

theorem Identifier.of_front {front name : List Char} (h : Identifier name)
    (hfront : front <+: name) : front = [] ∨ Identifier front := by
  obtain ⟨c, rest, rfl, hc, hrest⟩ := h
  cases front with
  | nil => exact .inl rfl
  | cons d front =>
    obtain ⟨rfl, hbehind⟩ := List.cons_prefix_cons.mp hfront
    exact .inr ⟨d, front, rfl, hc, fun e he ↦ hrest e (hbehind.subset he)⟩

theorem not_opens_of_notMem {cs : List Char} (h : '\x7b' ∉ cs) : ¬ Opens cs :=
  fun ⟨_, hend, _⟩ ↦ h (hend.subset (List.mem_cons_self ..))

/-- A text without braces is inert. -/
theorem inert_of_notMem {v : String} (h : '\x7b' ∉ v.toList) : Inert v :=
  ⟨fun _ _ hinside ↦ h (hinside.subset (List.mem_cons_self ..)), not_opens_of_notMem h⟩

/-- A placeholder across two texts starts in the first one. -/
theorem plain_append {cs rest : List Char} (hcs : Plain cs) (hopens : ¬ Opens cs)
    (hrest : Plain rest) : Plain (cs ++ rest) := by
  intro name hname hboth
  obtain hinside | hinside | ⟨front, back, hfront, hback, hsplit, hend, -⟩ :=
    List.infix_append_iff_ne_nil.mp hboth
  · exact hcs name hname hinside
  · exact hrest name hname hinside
  · cases front with
    | nil => exact hfront rfl
    | cons c front =>
      obtain ⟨rfl, hbehind⟩ := List.cons.inj hsplit
      -- The closing brace is in the second text.
      have hstart : front <+: name := by
        rcases List.prefix_concat_iff.mp ⟨back, hbehind.symm⟩ with rfl | hstart
        · exact absurd (List.self_eq_append_right.mp hbehind) hback
        · exact hstart
      exact hopens ⟨front, hend, hname.of_front hstart⟩

namespace Cut

/-- No plain part in front of a name ends in the front of a placeholder. -/
def Guarded : Cut → Prop
  | plain _ => True
  | hole part _ rest => ¬ Opens part.toList ∧ rest.Guarded

/-- With any values of its names the text has no placeholder. -/
def Settles (domain : String → List String) (k : Cut) : Prop :=
  ∀ value : String → String, (∀ n ∈ k.names, value n ∈ domain n) → Plain (k.fill value).toList

theorem plain_fill {k : Cut} {value : String → String} (hk : k.Proper) (hguarded : k.Guarded)
    (hvalue : ∀ n ∈ k.names, Inert (value n)) : Plain (k.fill value).toList := by
  induction k with
  | plain part => exact hk
  | hole part name rest ih =>
    obtain ⟨hpart, -, hrest⟩ := hk
    obtain ⟨hend, hguarded⟩ := hguarded
    obtain ⟨hname, hvalue⟩ := List.forall_mem_cons.mp hvalue
    rw [fill, String.append_assoc, String.toList_append, String.toList_append]
    exact plain_append hpart hend (plain_append hname.1 hname.2 (ih hrest hguarded hvalue))

end Cut

theorem names_eq_nil_iff {s : String} : names s = [] ↔ Plain s.toList := by
  obtain ⟨k, ⟨hk, rfl⟩, -⟩ := existsUnique_cut s
  rw [names_text hk]
  cases k with
  | plain part => exact iff_of_true rfl hk
  | hole part name rest =>
    refine iff_of_false (List.cons_ne_nil _ _) fun hplain ↦ ?_
    refine hplain name.toList hk.2.1 ⟨part.toList, rest.text.toList, ?_⟩
    simp [Cut.text, Cut.fill]

end Placeholder

open Placeholder

/-! ### The texts of an expanded document -/

namespace Decl

theorem Entry.strings_mapTexts (f : String → String) (e : Entry) :
    (Scanned.mapTexts f e).strings = e.strings.map f := by
  rw [← texts_eq, ← texts_eq]
  cases e with
  | clock c => exact Scanned.Lawful.texts_mapTexts f c
  | source s => exact Scanned.Lawful.texts_mapTexts f s
  | value v => exact Scanned.Lawful.texts_mapTexts f v
  | metricTemplate m => exact Scanned.Lawful.texts_mapTexts f m
  | metric m => exact Scanned.Lawful.texts_mapTexts f m

namespace Document

open Expansion

variable {d x : Document} {r : Registry}

/-- No text that is scanned has a placeholder. -/
def Bare (d : Document) : Prop := ∀ t, d.Scans t → Plain t.toList

/-- What is scanned after expansion is what was scanned before, with values for the names. -/
theorem ExpandsTo.scans_iff (h : ExpandsTo r d x) {t : String} :
    x.Scans t ↔ ∃ k : Cut, k.Proper ∧ d.Scans k.text ∧
      ∃ value : String → String, (∀ n ∈ k.names, value n ∈ r.domain n) ∧ k.fill value = t := by
  have hcopies := fun s ↦ expandEntries_eq_copies Entry.mapTexts_id (h.entries s)
  constructor
  · rintro ⟨s, b, hb, ht⟩
    rw [(hcopies s).1, List.mem_flatMap] at hb
    obtain ⟨e, he, hb⟩ := hb
    obtain ⟨c, hc, rfl⟩ := List.mem_map.mp hb
    obtain ⟨y, hy, rfl⟩ := List.mem_map.mp hc
    rw [Entry.strings_mapTexts, List.mem_map] at ht
    obtain ⟨before, hbefore, rfl⟩ := ht
    obtain ⟨k, ⟨hk, rfl⟩, -⟩ := existsUnique_cut before
    have hlookup : ∀ n ∈ k.names, ∃ v ∈ r.domain n, y.lookup n = some v := by
      intro n hn
      rw [← names_text hk] at hn
      exact exists_lookup_of_mem_choices hy (names_subset_placeholders (e.texts_eq ▸ hbefore) hn)
    refine ⟨k, hk, ⟨s, e, he, hbefore⟩, fun n ↦ (y.lookup n).getD "", fun n hn ↦ ?_, ?_⟩
    · obtain ⟨v, hv, hlookup⟩ := hlookup n hn
      simpa [hlookup] using hv
    · refine (substitute_text hk fun n hn ↦ ?_).symm
      obtain ⟨v, -, hlookup⟩ := hlookup n hn
      simp [hlookup]
  · rintro ⟨k, hk, ⟨s, e, he, hbefore⟩, value, hvalue, rfl⟩
    have hlookup : ∀ n ∈ k.names, (k.names.map fun n ↦ (n, value n)).lookup n = some (value n) :=
      fun _ ↦ lookup_map_pair
    obtain ⟨c, hc, hagree⟩ := exists_agreeing_copy (y := k.names.map fun n ↦ (n, value n))
      (e.texts_eq ▸ hbefore) ((hcopies s).2 e he) fun n hn ↦ by
        rw [names_text hk] at hn
        exact ⟨value n, hvalue n hn, hlookup n hn⟩
    obtain ⟨y, hy, rfl⟩ := List.mem_map.mp hc
    refine ⟨s, Scanned.mapTexts (substitute y) e, ?_, ?_⟩
    · rw [(hcopies s).1, List.mem_flatMap]
      exact ⟨e, he, List.mem_map_of_mem hc⟩
    · rw [Entry.strings_mapTexts, List.mem_map]
      exact ⟨k.text, hbefore, (substitute_congr hagree).trans (substitute_text hk hlookup)⟩

/-! ### Documents without placeholders -/

theorem Bare.not_mentions (h : d.Bare) (n : String) : ¬ d.Mentions n := by
  rintro ⟨t, ht, hn⟩
  have hnames : names t = [] := names_eq_nil_iff.mpr (h t ht)
  simp [hnames] at hn

/-- Entries without placeholders stay. -/
theorem Bare.expandEntries_eq {α : Type} [Scanned α] (h : d.Bare) (r : Registry) (s : Section)
    {entries : List α} (view : α → Entry)
    (htexts : ∀ a, Scanned.texts (view a) = Scanned.texts a)
    (hentries : d.entries s = entries.map view) : expandEntries r s entries = .ok entries := by
  refine expandEntries_eq_ok_iff.mpr ⟨_, ?_, List.flatMap_singleton' entries⟩
  refine List.forall₂_map_right_iff.mpr (List.forall₂_same.mpr fun a ha ↦ ?_)
  have hnames : Scanned.placeholders a = [] :=
    List.eq_nil_iff_forall_not_mem.mpr fun n hn ↦
      h.not_mentions n (mentions_of_mem_placeholders htexts hentries ha hn)
  simp [expandEntry, hnames]

theorem Bare.expandsTo_self (h : d.Bare) (r : Registry) : ExpandsTo r d d where
  templateClocks := h.expandEntries_eq r .templateClocks .clock (fun _ ↦ rfl) rfl
  templateSources := h.expandEntries_eq r .templateSources .source (fun _ ↦ rfl) rfl
  templateValues := h.expandEntries_eq r .templateValues .value (fun _ ↦ rfl) rfl
  templateMetrics := h.expandEntries_eq r .templateMetrics .metricTemplate (fun _ ↦ rfl) rfl
  instanceClocks := h.expandEntries_eq r .instanceClocks .clock (fun _ ↦ rfl) rfl
  instanceSources := h.expandEntries_eq r .instanceSources .source (fun _ ↦ rfl) rfl
  instanceValues := h.expandEntries_eq r .instanceValues .value (fun _ ↦ rfl) rfl
  metrics := h.expandEntries_eq r .metrics .metric (fun _ ↦ rfl) rfl
  iterators := rfl
  exporter := rfl
  settings := rfl

/-- What expansion leaves of placeholders, and when it leaves none. -/
structure Leaves (domain : String → List String) (d x : Document) : Prop where
  bare_iff : x.Bare ↔ ∀ k : Cut, k.Proper → d.Scans k.text → k.Settles domain
  /-- It is enough that the values are inert and that the texts are guarded against them. -/
  bare : (∀ n, d.Mentions n → ∀ v ∈ domain n, Inert v) →
    (∀ k : Cut, k.Proper → d.Scans k.text → k.Guarded) → x.Bare
  /-- Without placeholders a second expansion changes nothing. -/
  again : x.Bare → x.expand = .ok x

/-- When a document is expanded, its texts have no placeholder afterwards exactly if none of them
has one with any of the values of its iterators. -/
theorem leaves_of_expand (h : d.expand = .ok x) :
    ∃ r, Registry.ofDomains d.iterators = .ok r ∧ Leaves r.domain d x := by
  obtain ⟨r, hr, hx⟩ := expand_eq_ok_iff.mp h
  have hbare : x.Bare ↔ ∀ k : Cut, k.Proper → d.Scans k.text → k.Settles r.domain := by
    constructor
    · intro hbare k hk hscans value hvalue
      exact hbare _ (hx.scans_iff.mpr ⟨k, hk, hscans, value, hvalue, rfl⟩)
    · intro hsettles t ht
      obtain ⟨k, hk, hscans, value, hvalue, rfl⟩ := hx.scans_iff.mp ht
      exact hsettles k hk hscans value hvalue
  refine ⟨r, hr, hbare, fun hinert hguarded ↦ ?_, fun hx' ↦ ?_⟩
  · refine hbare.mpr fun k hk hscans value hvalue ↦ ?_
    refine Cut.plain_fill hk (hguarded k hk hscans) fun n hn ↦ hinert n ?_ _ (hvalue n hn)
    exact ⟨k.text, hscans, (names_text hk).symm ▸ hn⟩
  · exact expand_eq_ok_iff.mpr ⟨r, hx.iterators ▸ hr, hx'.expandsTo_self r⟩

end Document

end Decl

/-! ### A demonstration

The texts of the racks are filled. In the other document a value is a placeholder itself, and a text
has braces around one. -/

namespace Demo

open Decl

def expandedRacks : Document := { racks with
  metrics := [rack "east" "1", rack "east" "2", rack "west" "1", rack "west" "2"] }

/-- The cut of the names of the racks. -/
def rackCut : Cut := .hole "rack_" "zone" (.hole "_" "unit" (.plain ""))

theorem racks_guarded {k : Cut} (hk : k.Proper) (hscans : racks.Scans k.text) : k.Guarded := by
  obtain ⟨s, e, he, ht⟩ := hscans
  have hall : ∀ e ∈ racks.entries s, ∀ t ∈ e.strings,
      pieces t.toList = rackCut.pieces ∨ pieces t.toList = (Cut.plain "Load").pieces := by
    cases s <;> with_unfolding_all decide
  rcases hall e he k.text ht with hpieces | hpieces
  · obtain rfl : k = rackCut := by
      rw [← k.ofPieces_pieces, ← Cut.pieces_text hk, hpieces, Cut.ofPieces_pieces]
    exact ⟨not_opens_of_notMem (by decide), not_opens_of_notMem (by decide), trivial⟩
  · obtain rfl : k = .plain "Load" := by
      rw [← k.ofPieces_pieces, ← Cut.pieces_text hk, hpieces, Cut.ofPieces_pieces]
    trivial

/-- Nothing is left of the placeholders of the racks. -/
theorem racks_bare :
    racks.expand = .ok expandedRacks ∧ expandedRacks.Bare ∧
      expandedRacks.expand = .ok expandedRacks := by
  have hexpand : racks.expand = .ok expandedRacks := by with_unfolding_all rfl
  obtain ⟨r, hr, hleaves⟩ := Document.leaves_of_expand hexpand
  obtain rfl : r = ⟨[("zone", ["east", "west"]), ("unit", ["1", "2"])]⟩ := by
    refine Except.ok.inj (hr.symm.trans ?_)
    with_unfolding_all rfl
  have hbare : expandedRacks.Bare := by
    refine hleaves.bare (fun n hn v hv ↦ inert_of_notMem ?_) fun k ↦ racks_guarded
    have hvalues : ∀ n ∈ ["zone", "unit"], ∀ v ∈ Registry.domain
        ⟨[("zone", ["east", "west"]), ("unit", ["1", "2"])]⟩ n, '\x7b' ∉ v.toList := by decide
    rcases racks_mentions hn with rfl | rfl
    · exact hvalues _ (by decide) v hv
    · exact hvalues _ (by decide) v hv
  exact ⟨hexpand, hbare, hleaves.again hbare⟩

def nested : Document where
  iterators := [("x", .values [.text "{y}"]), ("z", .values [.text "y"]),
    ("y", .values [.text "v"])]
  metrics := [{ name := .same "m_{x}" }, { name := .same "\x7b\x7bz\x7d\x7d" }]

def nestedOnce : Document := { nested with
  metrics := [{ name := .same "m_{y}" }, { name := .same "{y}" }] }

def nestedTwice : Document := { nested with
  metrics := [{ name := .same "m_v" }, { name := .same "v" }] }

/-- Placeholders are left in the names of both metrics, and only a second expansion fills them. -/
theorem nested_residue :
    nested.expand = .ok nestedOnce ∧ ¬ nestedOnce.Bare ∧
      nestedOnce.expand = .ok nestedTwice ∧ nestedTwice ≠ nestedOnce := by
  refine ⟨by with_unfolding_all rfl, fun hbare ↦ ?_, by with_unfolding_all rfl, by decide⟩
  have hplain := hbare "{y}" ⟨.metrics, .metric { name := .same "{y}" },
    by with_unfolding_all decide, by with_unfolding_all decide⟩
  have hname : Identifier "y".toList := isIdentChars_iff.mp (by decide)
  exact hplain _ hname ⟨[], [], by decide⟩

end Demo

end TelemetrySim
