import TelemetrySim.Proofs.Placeholder
import TelemetrySim.Proofs.Rewriting
import TelemetrySim.Proofs.Scanned

/-!
Scanning and substitution agree (`scanning_agrees`). Both go by the one cut of a text. In each kind
of declarations the texts that are rewritten are those that are scanned, so the copies of an entry
are made with a value for every placeholder in them, and the values of other iterators do not count.
The names in placeholders are the names that can be declared.
-/

set_option autoImplicit false
set_option relaxedAutoImplicit false

namespace TelemetrySim

open Placeholder

/-! ### Names in placeholders and in declarations -/

namespace Placeholder

theorem Cut.Proper.identifier {k : Cut} (h : k.Proper) {n : String} (hn : n ∈ k.names) :
    Identifier n.toList := by
  induction k with
  | plain part => simp [Cut.names] at hn
  | hole part name rest ih =>
    obtain ⟨-, hname, hrest⟩ := h
    rcases List.mem_cons.mp hn with rfl | hn
    · exact hname
    · exact ih hrest hn

/-- The names that a placeholder can have. -/
theorem exists_mem_names_iff {n : String} : (∃ s, n ∈ names s) ↔ Identifier n.toList := by
  constructor
  · rintro ⟨s, hn⟩
    obtain ⟨k, ⟨hk, rfl⟩, -⟩ := existsUnique_cut s
    rw [names_text hk] at hn
    exact hk.identifier hn
  · intro hn
    have hk : (Cut.hole "" n (.plain "")).Proper := ⟨plain_nil, hn, plain_nil⟩
    refine ⟨(Cut.hole "" n (.plain "")).text, ?_⟩
    rw [names_text hk]
    exact List.mem_singleton.mpr rfl

end Placeholder

namespace Registry

variable {r r' : Registry} {names : List String}

theorem declare_eq_invalidName_iff {n : String} {values : List String} :
    r.declare n values = .error (.invalidName n) ↔ ¬ Identifier n.toList := by
  rw [declare, ← isIdentChars_iff, ← Text.isIdent]
  cases hident : Text.isIdent n with
  | false => simp
  | true =>
    simp only [Bool.not_true, Bool.false_eq_true, if_false, not_true, iff_false]
    split
    · simp
    · split <;> simp

theorem exists_declare_iff {n : String} :
    (∃ values r', r.declare n values = .ok r') ↔ Identifier n.toList := by
  constructor
  · rintro ⟨values, r', h⟩
    by_contra hn
    rw [declare_eq_invalidName_iff.mpr hn] at h
    simp at h
  · intro hn
    have hident : Text.isIdent n = true := isIdentChars_iff.mpr hn
    refine ⟨[""], ⟨Assoc.insert n [""] r.domains⟩, ?_⟩
    simp [declare, hident, firstRepeated]

/-- Only the domains of the names count. -/
theorem combinations_congr (h : ∀ n ∈ names, r.domain? n = r'.domain? n) :
    r.combinations names = r'.combinations names := by
  rw [combinations, combinations]
  refine congrArg (· >>= _) (Pairing.mapM_congr fun n hn ↦ ?_)
  rw [h n hn]

end Registry

/-! ### Copies -/

namespace Expansion

open Scanned

variable {α : Type} [Scanned α] {r r' : Registry} {a : α} {x y : Assignment}

/-- There is a value for every placeholder of a text that is scanned, so none is left. -/
theorem MadeWith.exists_lookup (h : MadeWith r a x) {t n : String} (ht : t ∈ texts a)
    (hn : n ∈ names t) : ∃ v ∈ r.domain n, x.lookup n = some v := by
  obtain ⟨c, shown, hc, hshown, hx⟩ := h
  obtain ⟨-, hiterators⟩ := Registry.combinations_ok hc
  rw [Combinations.all_eq_choices hiterators (firstAppearance_eraseDups _).nodup hshown] at hx
  exact exists_lookup_of_mem_choices hx (names_subset_placeholders ht hn)

theorem mapTexts_substitute_congr [Lawful α]
    (h : ∀ n ∈ placeholders a, x.lookup n = y.lookup n) :
    mapTexts (substitute x) a = mapTexts (substitute y) a :=
  Lawful.mapTexts_congr fun _ ht ↦
    substitute_congr fun n hn ↦ h n (names_subset_placeholders ht hn)

theorem expandEntry_congr (h : ∀ n ∈ placeholders a, r.domain? n = r'.domain? n) :
    expandEntry r a = expandEntry r' a := by
  rw [expandEntry, expandEntry, Registry.combinations_congr h]

/-- Scanning and substitution agree on a kind of declarations. What is scanned and what is rewritten
is said field by field; the texts that are rewritten are those that are scanned, in the same order.
The copies of an entry are made with values for all placeholders in its texts, and nothing but these
values decides what they are. -/
structure Agrees (α : Type) [Scanned α] (strings : α → List String)
    (Rewritten : (String → String) → α → α → Prop) : Prop where
  texts_eq (a : α) : texts a = strings a
  rewritten (f : String → String) (a : α) : Rewritten f a (mapTexts f a)
  texts_mapTexts (f : String → String) (a : α) : texts (mapTexts f a) = (texts a).map f
  mapTexts_eq_iff (f g : String → String) (a : α) :
    mapTexts f a = mapTexts g a ↔ ∀ t ∈ texts a, f t = g t
  mapTexts_id (a : α) : mapTexts id a = a
  appearance (a : α) : FirstAppearance ((texts a).flatMap names) (placeholders a)
  copies (r : Registry) (a : α) (out : List α) : expandEntry r a = .ok out → ∀ b ∈ out,
    (placeholders a = [] ∧ b = a) ∨ ∃ x, MadeWith r a x ∧ b = mapTexts (substitute x) a
  valued (r : Registry) (a : α) (x : Assignment) : MadeWith r a x →
    ∀ t ∈ texts a, ∀ n ∈ names t, ∃ v ∈ r.domain n, x.lookup n = some v
  own_values (x y : Assignment) (a : α) : (∀ n ∈ placeholders a, x.lookup n = y.lookup n) →
    mapTexts (substitute x) a = mapTexts (substitute y) a
  own_domains (r r' : Registry) (a : α) : (∀ n ∈ placeholders a, r.domain? n = r'.domain? n) →
    expandEntry r a = expandEntry r' a

theorem agrees_of_lawful [Lawful α] {strings : α → List String}
    {Rewritten : (String → String) → α → α → Prop} (htexts : ∀ a : α, texts a = strings a)
    (hmap : ∀ f a, Rewritten f a (mapTexts f a)) : Agrees α strings Rewritten where
  texts_eq := htexts
  rewritten := hmap
  texts_mapTexts := Lawful.texts_mapTexts
  mapTexts_eq_iff _ _ _ := Scanned.mapTexts_eq_iff
  mapTexts_id := Lawful.mapTexts_id
  appearance _ := firstAppearance_eraseDups _
  copies _ _ _ h _ hb := madeWith_of_mem_expandEntry h hb
  valued _ _ _ h _ ht _ hn := h.exists_lookup ht hn
  own_values _ _ _ h := mapTexts_substitute_congr h
  own_domains _ _ _ h := expandEntry_congr h

end Expansion

open Expansion Decl in
/-- Scanning and substitution agree. Every text is cut in exactly one way into plain parts and
identifiers in braces; these are the names that are found, ordered by where they first appear, and
substitution puts their values between the plain parts. In each kind of declarations the texts that
are scanned are those that are rewritten. The names found in texts are the names that can be
declared. -/
theorem Placeholder.scanning_agrees :
    (∀ s : String, ∃! k : Cut, k.Proper ∧ k.text = s) ∧
      (∀ k : Cut, k.Proper →
        FirstAppearance k.names (Scanned.placeholders k.text) ∧
          ∀ (x : Assignment) (value : String → String),
            (∀ n ∈ k.names, x.lookup n = some (value n)) → substitute x k.text = k.fill value) ∧
      (Agrees Clock Clock.strings Clock.Rewritten ∧ Agrees Source Source.strings Source.Rewritten ∧
        Agrees Value Value.strings Value.Rewritten ∧
        Agrees MetricTemplate MetricTemplate.strings MetricTemplate.Rewritten ∧
        Agrees Metric Metric.strings Metric.Rewritten) ∧
      ∀ n : String, ((∃ s, n ∈ names s) ↔ Identifier n.toList) ∧
        ∀ r : Registry, ((∃ values r', r.declare n values = .ok r') ↔ Identifier n.toList) ∧
          ∀ values, r.declare n values = .error (.invalidName n) ↔ ¬ Identifier n.toList := by
  refine ⟨existsUnique_cut, fun k hk ↦ ⟨?_, fun x value ↦ substitute_text hk⟩, ?_, fun n ↦ ?_⟩
  · have happearance := firstAppearance_eraseDups (names k.text)
    rw [names_text hk] at happearance
    simpa [Scanned.placeholders, Scanned.texts, names_text hk] using happearance
  · exact ⟨agrees_of_lawful Clock.texts_eq Clock.rewritten_mapTexts,
      agrees_of_lawful Source.texts_eq Source.rewritten_mapTexts,
      agrees_of_lawful Value.texts_eq Value.rewritten_mapTexts,
      agrees_of_lawful MetricTemplate.texts_eq MetricTemplate.rewritten_mapTexts,
      agrees_of_lawful Metric.texts_eq Metric.rewritten_mapTexts⟩
  · exact ⟨exists_mem_names_iff, fun r ↦
      ⟨Registry.exists_declare_iff, fun values ↦ Registry.declare_eq_invalidName_iff⟩⟩

/-! ### A demonstration

A text with braces around and behind its placeholders. The value of `zone` looks like a placeholder
itself and stays as it is. A metric mentions both iterators, one of them only in a clock inside its
value. -/

namespace Demo

open Expansion Scanned

def tag : String := "\x7b\x7bzone\x7d-\x7b2\x7d\x7bunit\x7d"

def tagCut : Cut := .hole "\x7b" "zone" (.hole "-\x7b2\x7d" "unit" (.plain ""))

def tagValues : Assignment := [("unit", "1"), ("zone", "\x7bunit\x7d")]

def westSecond : Assignment := [("zone", "west"), ("unit", "2")]

theorem tagCut_proper : tagCut.Proper := by
  have hcut : Cut.ofPieces (pieces tag.toList) = tagCut := by with_unfolding_all rfl
  exact hcut ▸ Cut.proper_ofPieces_pieces tag.toList

/-- The tag is filled at its two placeholders, and the metric is copied with values for both. -/
theorem tag_agrees :
    tagCut.Proper ∧ tagCut.text = tag ∧ FirstAppearance ["zone", "unit"] (placeholders tag) ∧
      substitute tagValues tag = "\x7b\x7bunit\x7d-\x7b2\x7d1" ∧
      MadeWith registry (sensor "\x7bzone\x7d" "\x7bunit\x7d") westSecond ∧
      (∀ t ∈ texts (sensor "\x7bzone\x7d" "\x7bunit\x7d"), ∀ n ∈ names t,
        ∃ v ∈ registry.domain n, westSecond.lookup n = some v) ∧
      Identifier "zone".toList := by
  obtain ⟨-, hcut, ⟨-, -, -, -, hmetric⟩, hnames⟩ := scanning_agrees
  obtain ⟨hfound, hfill⟩ := hcut tagCut tagCut_proper
  have hmade : MadeWith registry (sensor "\x7bzone\x7d" "\x7bunit\x7d") westSecond :=
    ⟨⟨[("zone", ["east", "west"]), ("unit", ["1", "2"])]⟩, _, by with_unfolding_all rfl,
      by with_unfolding_all rfl, by with_unfolding_all decide⟩
  refine ⟨tagCut_proper, rfl, hfound, ?_, hmade, hmetric.valued _ _ _ hmade, ?_⟩
  · exact hfill tagValues (fun n ↦ (tagValues.lookup n).getD "") (by decide)
  · exact (hnames "zone").1.mp ⟨tag, by with_unfolding_all decide⟩

end Demo

end TelemetrySim
