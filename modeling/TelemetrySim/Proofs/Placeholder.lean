import Mathlib.Logic.ExistsUnique
import TelemetrySim.Placeholder

/-!
Texts and their placeholders. A `Cut` writes a text as plain parts with names between them. It is
`Proper` if the names are identifiers and no plain part has a placeholder inside. The pieces of a
text are those of its proper cuts (`pieces_text`), and the pieces put together are such a cut
(`proper_ofPieces_pieces`), so every text has exactly one (`existsUnique_cut`), and substitution
puts the values where its names are (`substitute_text`). What becomes of a text depends on the
values of its own placeholders (`substitute_congr`).
-/

set_option autoImplicit false
set_option relaxedAutoImplicit false

namespace TelemetrySim.Placeholder

/-! ### Identifiers -/

/-- A letter or underscore, and then letters, digits and underscores. -/
def Identifier (cs : List Char) : Prop :=
  ∃ c rest, cs = c :: rest ∧ (c.isAlpha ∨ c = '_') ∧ ∀ d ∈ rest, d.isAlphanum ∨ d = '_'

section Identifiers

variable {name cs rest : List Char}

theorem isIdentChars_iff : Text.isIdentChars cs = true ↔ Identifier cs := by
  cases cs with
  | nil => simp [Identifier]
  | cons c rest =>
    rw [Text.isIdentChars_cons, Bool.and_eq_true_iff, List.all_eq_true]
    constructor
    · rintro ⟨hfirst, hrest⟩
      refine ⟨c, rest, rfl, by simpa [Text.isIdentStart] using hfirst, fun d hd ↦ ?_⟩
      simpa [Text.isIdentRest] using hrest d hd
    · rintro ⟨_, _, h, hfirst, hrest⟩
      obtain ⟨rfl, rfl⟩ := List.cons.inj h
      refine ⟨by simpa [Text.isIdentStart] using hfirst, fun d hd ↦ ?_⟩
      simpa [Text.isIdentRest] using hrest d hd

theorem Identifier.isIdentRest (h : Identifier name) : ∀ c ∈ name, Text.isIdentRest c = true := by
  obtain ⟨c, rest, rfl, hfirst, hrest⟩ := h
  refine List.forall_mem_cons.mpr ⟨?_, fun d hd ↦ ?_⟩
  · exact Text.isIdentRest_of_isIdentStart (by simpa [Text.isIdentStart] using hfirst)
  · simpa [Text.isIdentRest] using hrest d hd

theorem Identifier.brace_notMem (h : Identifier name) : '\x7b' ∉ name :=
  fun hmem ↦ absurd (h.isIdentRest _ hmem) (by decide)

/-- A text starts with a name and a closing brace in at most one way. -/
theorem nameThen_eq_some_iff :
    nameThen cs = some (name, rest) ↔ Identifier name ∧ cs = name ++ '\x7d' :: rest := by
  constructor
  · intro h
    refine ⟨?_, eq_of_nameThen h⟩
    unfold nameThen at h
    split at h
    · split at h
      · next hident =>
        obtain ⟨rfl, -⟩ := Prod.mk.inj (Option.some.inj h)
        exact isIdentChars_iff.mp hident
      · simp at h
    · simp at h
  · rintro ⟨hname, rfl⟩
    have htake : (name ++ '\x7d' :: rest).takeWhile Text.isIdentRest = name := by
      rw [List.takeWhile_append_of_pos hname.isIdentRest]
      simp [show Text.isIdentRest '\x7d' = false by decide]
    have hdrop : (name ++ '\x7d' :: rest).dropWhile Text.isIdentRest = '\x7d' :: rest := by
      rw [List.dropWhile_append_of_pos hname.isIdentRest]
      simp [show Text.isIdentRest '\x7d' = false by decide]
    simp only [nameThen, hdrop, htake, isIdentChars_iff.mpr hname, if_true]

end Identifiers

/-! ### Pieces -/

theorem pieces_hole {cs name rest : List Char} (h : nameThen cs = some (name, rest)) :
    pieces ('\x7b' :: cs) = .hole name :: pieces rest := by
  rw [pieces, if_pos rfl]
  split
  · next name' rest' hname' =>
    obtain ⟨rfl, rfl⟩ := Prod.mk.inj (Option.some.inj (h.symm.trans hname'))
    rfl
  · next hnone => simp [h] at hnone

theorem pieces_brace {cs : List Char} (h : nameThen cs = none) :
    pieces ('\x7b' :: cs) = .char '\x7b' :: pieces cs := by
  rw [pieces, if_pos rfl]
  split
  · next hname => simp [h] at hname
  · rfl

theorem pieces_char {c : Char} (h : c ≠ '\x7b') (cs : List Char) :
    pieces (c :: cs) = .char c :: pieces cs := by
  rw [pieces, if_neg h]

/-- Nothing of a text is lost between its pieces. -/
theorem flatMap_chars_pieces (cs : List Char) : (pieces cs).flatMap Piece.chars = cs := by
  induction cs using pieces.induct with
  | case1 => simp [pieces]
  | case2 cs name rest hname _ ih =>
    rw [pieces_hole hname, List.flatMap_cons, ih, eq_of_nameThen hname]
    simp [Piece.chars]
  | case3 cs hnone ih =>
    rw [pieces_brace hnone, List.flatMap_cons, ih]
    rfl
  | case4 c cs hbrace ih =>
    rw [pieces_char hbrace, List.flatMap_cons, ih]
    rfl

theorem mem_names_of_hole {s : String} {n : List Char} (h : .hole n ∈ pieces s.toList) :
    String.ofList n ∈ names s :=
  List.mem_filterMap.mpr ⟨.hole n, h, rfl⟩

/-- Assignments that agree on the placeholders of a text fill it in the same way. -/
theorem substitute_congr {a b : Assignment} {s : String}
    (h : ∀ n ∈ names s, a.lookup n = b.lookup n) : substitute a s = substitute b s := by
  have hfill : ∀ p ∈ pieces s.toList, p.fill a = p.fill b := by
    intro p hp
    cases p with
    | char c => rfl
    | hole n =>
      simp only [Piece.fill, Piece.name?, Option.bind_some, h _ (mem_names_of_hole hp)]
  rw [substitute, substitute, List.flatMap_def, List.flatMap_def, List.map_congr_left hfill]

/-- Without values every placeholder stays. -/
theorem substitute_nil (s : String) : substitute [] s = s := by
  have hfill : Piece.fill [] = Piece.chars := by
    funext p
    cases p with
    | char c => rfl
    | hole n => rfl
  rw [substitute, hfill, flatMap_chars_pieces, String.ofList_toList]

/-! ### Cuts -/

/-- The text of a placeholder. -/
def token (name : List Char) : List Char := '\x7b' :: name ++ ['\x7d']

/-- No placeholder is inside the text. -/
def Plain (cs : List Char) : Prop := ∀ name, Identifier name → ¬ token name <:+: cs

theorem plain_nil : Plain [] := fun name _ hinfix ↦ by simp [token] at hinfix

theorem plain_cons_iff {c : Char} {cs : List Char} :
    Plain (c :: cs) ↔ (∀ name, Identifier name → ¬ token name <+: c :: cs) ∧ Plain cs := by
  simp only [Plain, List.infix_cons_iff, not_or]
  constructor
  · exact fun h ↦ ⟨fun name hname ↦ (h name hname).1, fun name hname ↦ (h name hname).2⟩
  · exact fun h name hname ↦ ⟨h.1 name hname, h.2 name hname⟩

/-- Plain parts of a text with names between them. -/
inductive Cut where
  | plain (part : String)
  | hole (part name : String) (rest : Cut)

namespace Cut

/-- The text with something written for each name. -/
def fill (value : String → String) : Cut → String
  | plain part => part
  | hole part name rest => part ++ value name ++ rest.fill value

/-- The text that is cut. -/
def text (k : Cut) : String := k.fill fun name ↦ String.ofList (token name.toList)

def names : Cut → List String
  | plain _ => []
  | hole _ name rest => name :: rest.names

/-- The names are identifiers, and no placeholder is inside a plain part. -/
def Proper : Cut → Prop
  | plain part => Plain part.toList
  | hole part name rest => Plain part.toList ∧ Identifier name.toList ∧ rest.Proper

/-- The part in front of the first name. -/
def head : Cut → String
  | plain part => part
  | hole part _ _ => part

/-- The text with more in front. -/
def push (front : String) : Cut → Cut
  | plain part => plain (front ++ part)
  | hole part name rest => hole (front ++ part) name rest

def pieces : Cut → List Piece
  | plain part => part.toList.map .char
  | hole part name rest => part.toList.map .char ++ .hole name.toList :: rest.pieces

def ofPieces : List Piece → Cut
  | [] => plain ""
  | .char c :: ps => (ofPieces ps).push (String.singleton c)
  | .hole name :: ps => hole "" (String.ofList name) (ofPieces ps)

/-! ### Cuts and pieces -/

variable {k : Cut}

theorem pieces_push (front : String) (k : Cut) :
    (k.push front).pieces = front.toList.map .char ++ k.pieces := by
  cases k <;> simp [push, pieces]

theorem pieces_ofPieces (ps : List Piece) : (ofPieces ps).pieces = ps := by
  induction ps with
  | nil => rfl
  | cons p ps ih =>
    cases p with
    | char c => simp [ofPieces, pieces_push, ih]
    | hole name => simp [ofPieces, pieces, ih]

theorem ofPieces_append (cs : List Char) (ps : List Piece) :
    ofPieces (cs.map .char ++ ps) = (ofPieces ps).push (String.ofList cs) := by
  induction cs with
  | nil =>
    rw [List.map_nil, List.nil_append]
    cases ofPieces ps <;> simp [push]
  | cons c cs ih =>
    rw [List.map_cons, List.cons_append, ofPieces, ih]
    cases ofPieces ps <;> simp [push, ← String.append_assoc]

theorem ofPieces_pieces (k : Cut) : ofPieces k.pieces = k := by
  induction k with
  | plain part =>
    have hpart := ofPieces_append part.toList []
    simpa [pieces, ofPieces, push] using hpart
  | hole part name rest ih => simp [pieces, ofPieces_append, ofPieces, push, ih]

/-- The pieces of a cut, each replaced by a text, are the cut with these texts. -/
theorem flatMap_pieces {value : String → String} {chars : Piece → List Char}
    (hchar : ∀ c, chars (.char c) = [c])
    (hhole : ∀ n ∈ k.names, chars (.hole n.toList) = (value n).toList) :
    k.pieces.flatMap chars = (k.fill value).toList := by
  have hpart : ∀ part : String, (part.toList.map Piece.char).flatMap chars = part.toList := by
    intro part
    simp [List.flatMap_map, hchar]
  induction k with
  | plain part => exact hpart part
  | hole part name rest ih =>
    obtain ⟨hname, hrest⟩ := List.forall_mem_cons.mp hhole
    rw [pieces, List.flatMap_append, List.flatMap_cons, hpart, hname, ih hrest, fill]
    simp

theorem filterMap_pieces (k : Cut) : k.pieces.filterMap Piece.name? = k.names := by
  have hpart : ∀ part : String, (part.toList.map Piece.char).filterMap Piece.name? = [] := by
    intro part
    simp [List.filterMap_map, Function.comp_def, Piece.name?]
  induction k with
  | plain part => exact hpart part
  | hole part name rest ih =>
    simp [pieces, hpart, Piece.name?, ih, names]

theorem toList_text (k : Cut) : k.text.toList = k.pieces.flatMap Piece.chars := by
  refine (flatMap_pieces (fun _ ↦ rfl) fun n _ ↦ ?_).symm
  rw [String.toList_ofList]
  rfl

end Cut

/-- No placeholder starts at a brace of a plain part, even if another part follows. -/
theorem nameThen_plain_append {cs rest : List Char}
    (h : ∀ name, Identifier name → ¬ token name <+: '\x7b' :: cs)
    (hrest : rest = [] ∨ ∃ more, rest = '\x7b' :: more) : nameThen (cs ++ rest) = none := by
  refine Option.eq_none_iff_forall_ne_some.mpr ?_
  rintro ⟨name, behind⟩ hsome
  obtain ⟨hname, heq⟩ := nameThen_eq_some_iff.mp hsome
  have hinside : ¬ name ++ ['\x7d'] <+: cs := fun hprefix ↦
    h name hname (List.cons_prefix_cons.mpr ⟨rfl, hprefix⟩)
  rw [List.append_cons] at heq
  obtain ⟨across, hcross, hacross⟩ | ⟨more, hmore, -⟩ := List.append_eq_append_iff.mp heq
  · -- The placeholder reaches into the rest, which starts with a brace: a name has none.
    cases across with
    | nil => exact hinside (by simp [hcross])
    | cons d across =>
      obtain rfl | ⟨more, rfl⟩ := hrest
      · simp at hacross
      · obtain ⟨rfl, -⟩ := List.cons.inj hacross
        have hmem : '\x7b' ∈ name ++ ['\x7d'] := by simp [hcross]
        simp [hname.brace_notMem] at hmem
  · exact hinside ⟨more, hmore.symm⟩

/-- A plain part that the text ends behind, or that a placeholder follows, has its characters for
pieces. -/
theorem pieces_plain_append {cs rest : List Char} (h : Plain cs)
    (hrest : rest = [] ∨ ∃ more, rest = '\x7b' :: more) :
    pieces (cs ++ rest) = cs.map .char ++ pieces rest := by
  induction cs with
  | nil => rfl
  | cons c cs ih =>
    obtain ⟨hstart, hcs⟩ := plain_cons_iff.mp h
    by_cases hc : c = '\x7b'
    · subst hc
      rw [List.cons_append, pieces_brace (nameThen_plain_append hstart hrest), ih hcs]
      rfl
    · rw [List.cons_append, pieces_char hc, ih hcs]
      rfl

namespace Cut

variable {k : Cut}

theorem pieces_text (h : k.Proper) : Placeholder.pieces k.text.toList = k.pieces := by
  induction k with
  | plain part =>
    have hpieces := pieces_plain_append h (.inl rfl)
    simpa [text, fill, pieces, Placeholder.pieces] using hpieces
  | hole part name rest ih =>
    obtain ⟨hpart, hname, hrest⟩ := h
    have hhole : nameThen (name.toList ++ '\x7d' :: rest.text.toList) =
        some (name.toList, rest.text.toList) :=
      nameThen_eq_some_iff.mpr ⟨hname, rfl⟩
    have htext : (hole part name rest).text.toList =
        part.toList ++ '\x7b' :: (name.toList ++ '\x7d' :: rest.text.toList) := by
      simp [text, fill, token]
    rw [htext, pieces_plain_append hpart (.inr ⟨_, rfl⟩), pieces_hole hhole, ih hrest, pieces]

theorem text_head (k : Cut) : k.head.toList <+: k.text.toList := by
  cases k with
  | plain part => exact List.prefix_rfl
  | hole part name rest =>
    rw [text, fill, String.append_assoc, String.toList_append]
    exact List.prefix_append _ _

theorem proper_push {c : Char} (h : k.Proper)
    (hhead : ∀ name, Identifier name → ¬ token name <+: c :: k.head.toList) :
    (k.push (String.singleton c)).Proper := by
  have hpush : ∀ part : String, (String.singleton c ++ part).toList = c :: part.toList := by simp
  cases k with
  | plain part =>
    rw [push, Proper, hpush]
    exact plain_cons_iff.mpr ⟨hhead, h⟩
  | hole part name rest =>
    rw [push, Proper, hpush]
    exact ⟨plain_cons_iff.mpr ⟨hhead, h.1⟩, h.2⟩

/-- The pieces of a text make a proper cut. -/
theorem proper_ofPieces_pieces (cs : List Char) : (ofPieces (Placeholder.pieces cs)).Proper := by
  induction cs using Placeholder.pieces.induct with
  | case1 =>
    rw [Placeholder.pieces]
    exact plain_nil
  | case2 cs name rest hname _ ih =>
    rw [pieces_hole hname]
    refine ⟨plain_nil, ?_, ih⟩
    rw [String.toList_ofList]
    exact (nameThen_eq_some_iff.mp hname).1
  | case3 cs hnone ih =>
    rw [pieces_brace hnone]
    refine proper_push ih fun name hname hprefix ↦ ?_
    obtain ⟨behind, hbehind⟩ := (List.cons_prefix_cons.mp hprefix).2.trans (text_head _)
    rw [toList_text, pieces_ofPieces, flatMap_chars_pieces] at hbehind
    have hsome := nameThen_eq_some_iff.mpr ⟨hname, hbehind.symm.trans (List.append_cons ..).symm⟩
    simp [hnone] at hsome
  | case4 c cs hbrace ih =>
    rw [pieces_char hbrace]
    refine proper_push ih fun name hname hprefix ↦ ?_
    exact hbrace (List.cons_prefix_cons.mp hprefix).1.symm

theorem text_ofPieces_pieces (s : String) : (ofPieces (Placeholder.pieces s.toList)).text = s := by
  rw [← String.toList_inj, toList_text, pieces_ofPieces, flatMap_chars_pieces]

end Cut

/-- Every text is cut in exactly one way. -/
theorem existsUnique_cut (s : String) : ∃! k : Cut, k.Proper ∧ k.text = s := by
  refine ⟨Cut.ofPieces (pieces s.toList), ⟨?_, ?_⟩, ?_⟩
  · exact Cut.proper_ofPieces_pieces s.toList
  · exact Cut.text_ofPieces_pieces s
  · rintro k ⟨hk, rfl⟩
    rw [Cut.pieces_text hk, Cut.ofPieces_pieces]

theorem names_text {k : Cut} (h : k.Proper) : names k.text = k.names := by
  rw [names, Cut.pieces_text h, Cut.filterMap_pieces]

/-- Substitution puts the values where the names are, and the values stay as they are. -/
theorem substitute_text {k : Cut} (h : k.Proper) {x : Assignment} {value : String → String}
    (hx : ∀ n ∈ k.names, x.lookup n = some (value n)) :
    substitute x k.text = k.fill value := by
  rw [substitute, Cut.pieces_text h, Cut.flatMap_pieces (fun _ ↦ rfl), String.ofList_toList]
  intro n hn
  simp [Piece.fill, Piece.name?, hx n hn]

end TelemetrySim.Placeholder
