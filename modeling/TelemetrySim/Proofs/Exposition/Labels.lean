import TelemetrySim.Proofs.Exposition.LineEnds

/-!
Labels can be read back. Keys have neither quotes nor backslashes, and in a value each of them is
written behind a backslash, so the quotes around a value are exactly those that an even number of
backslashes stands in front of (`neutral_markedLabels`). A reader that cuts the labels at these
quotes and undoes the escapes in what lies between them finds all pairs again (`readLabels_labels`),
so different attributes have different labels and no two metrics of a compiled configuration are
shown under the same name with the same labels (`labels_readable`).
-/

set_option autoImplicit false
set_option relaxedAutoImplicit false

namespace TelemetrySim.Exposition

/-! ### A reader -/

/-- Cuts a text at its quotes, apart from those behind a backslash: the part in front of the first
one, and the parts behind each of them. -/
def cutQuotes : List Char → List Char × List (List Char)
  | [] => ([], [])
  | '"' :: cs => ([], (cutQuotes cs).1 :: (cutQuotes cs).2)
  | '\\' :: c :: cs => ('\\' :: c :: (cutQuotes cs).1, (cutQuotes cs).2)
  | c :: cs => (c :: (cutQuotes cs).1, (cutQuotes cs).2)

/-- Undoes the escapes of a value. -/
def unescape : List Char → List Char
  | [] => []
  | '\\' :: 'n' :: cs => '\n' :: unescape cs
  | '\\' :: c :: cs => c :: unescape cs
  | c :: cs => c :: unescape cs

/-- Keys and values by turns. A key stands between a brace or comma and the sign of equality. -/
def readPairs : List (List Char) → Config.Attributes
  | key :: value :: parts =>
    (String.ofList key.tail.dropLast, String.ofList (unescape value)) :: readPairs parts
  | _ => []

/-- The attributes that labels were written for. -/
def readLabels (text : String) : Config.Attributes :=
  readPairs ((cutQuotes text.toList).1 :: (cutQuotes text.toList).2)

/-! ### Texts without special characters, and values -/

/-- Neither a quote nor a backslash. -/
def Plain (cs : List Char) : Prop := ∀ c ∈ cs, c ≠ '"' ∧ c ≠ '\\'

def escaped (value : String) : List Char := value.toList.flatMap labelChar

theorem plain_key {key : String} (h : Config.AttributeKey key) : Plain key.toList := by
  intro c hc
  constructor
  · rintro rfl
    exact absurd (h.rest _ hc) (by decide)
  · rintro rfl
    exact absurd (h.rest _ hc) (by decide)

/-- A character of a value is written behind a backslash, or stands for itself. -/
theorem labelChar_cases (c : Char) :
    (∃ e, labelChar c = ['\\', e] ∧ ∀ cs, unescape ('\\' :: e :: cs) = c :: unescape cs) ∨
      (c ≠ '"' ∧ c ≠ '\\' ∧ labelChar c = [c]) := by
  by_cases hquote : c = '"'
  · subst hquote
    exact .inl ⟨'"', rfl, fun _ ↦ rfl⟩
  · by_cases hbackslash : c = '\\'
    · subst hbackslash
      exact .inl ⟨'\\', rfl, fun _ ↦ rfl⟩
    · by_cases hend : c = '\n'
      · subst hend
        exact .inl ⟨'n', rfl, fun _ ↦ rfl⟩
      · refine .inr ⟨hquote, hbackslash, ?_⟩
        rw [labelChar, if_neg hquote, helpChar, if_neg hbackslash, if_neg hend]

theorem unescape_cons {c : Char} (h : c ≠ '\\') (cs : List Char) :
    unescape (c :: cs) = c :: unescape cs := by
  rw [unescape]
  · exact fun _ hc _ ↦ h hc
  · exact fun _ _ hc _ ↦ h hc

theorem unescape_escaped (value : List Char) : unescape (value.flatMap labelChar) = value := by
  induction value with
  | nil => rfl
  | cons c cs ih =>
    rw [List.flatMap_cons]
    obtain ⟨e, h, hundo⟩ | ⟨-, hbackslash, h⟩ := labelChar_cases c
    · rw [h, List.cons_append, List.singleton_append, hundo, ih]
    · rw [h, List.singleton_append, unescape_cons hbackslash, ih]

theorem cutQuotes_cons {c : Char} (hquote : c ≠ '"') (hbackslash : c ≠ '\\') (cs : List Char) :
    cutQuotes (c :: cs) = (c :: (cutQuotes cs).1, (cutQuotes cs).2) := by
  rw [cutQuotes]
  · exact hquote
  · exact fun _ _ hc _ ↦ hbackslash hc

theorem cutQuotes_plain {cs : List Char} (h : Plain cs) (rest : List Char) :
    cutQuotes (cs ++ rest) = (cs ++ (cutQuotes rest).1, (cutQuotes rest).2) := by
  induction cs with
  | nil => rfl
  | cons c cs ih =>
    obtain ⟨⟨hquote, hbackslash⟩, hcs⟩ := List.forall_mem_cons.mp h
    rw [List.cons_append, cutQuotes_cons hquote hbackslash, ih hcs]
    rfl

/-- There is no cut inside a value. -/
theorem cutQuotes_escaped (value rest : List Char) :
    cutQuotes (value.flatMap labelChar ++ rest) =
      (value.flatMap labelChar ++ (cutQuotes rest).1, (cutQuotes rest).2) := by
  induction value with
  | nil => rfl
  | cons c cs ih =>
    rw [List.flatMap_cons, List.append_assoc]
    obtain ⟨e, h, -⟩ | ⟨hquote, hbackslash, h⟩ := labelChar_cases c
    · rw [h, List.cons_append, List.singleton_append, cutQuotes, ih]
      rfl
    · rw [h, List.singleton_append, cutQuotes_cons hquote hbackslash, ih]
      rfl

/-! ### Labels character by character -/

/-- The characters of a label behind a brace or a comma. -/
def labelChars (lead : Char) (p : String × String) : List Char :=
  (lead :: p.1.toList ++ ['=', '"']) ++ escaped p.2 ++ ['"']

theorem cons_toList_label (lead : Char) (p : String × String) :
    lead :: (label p.1 p.2).toList = labelChars lead p := by
  simp [label, labelChars, escaped, escapeLabel_eq]

theorem toList_intercalate_comma (s : String) (rest : List String) :
    (String.intercalate "," (s :: rest)).toList =
      s.toList ++ rest.flatMap fun t ↦ ',' :: t.toList := by
  induction rest generalizing s with
  | nil => simp
  | cons t rest ih =>
    rw [String.intercalate_cons_cons, String.toList_append, String.toList_append, ih,
      List.flatMap_cons, List.append_assoc]
    rfl

/-- Labels are written one after the other, the first behind a brace, the others behind commas. -/
theorem toList_labels_cons (p : String × String) (rest : Config.Attributes) :
    (labels (p :: rest)).toList =
      labelChars '\x7b' p ++ rest.flatMap (labelChars ',') ++ ['\x7d'] := by
  have hrest : (rest.map fun q ↦ label q.1 q.2).flatMap (fun t ↦ ',' :: t.toList) =
      rest.flatMap (labelChars ',') := by
    rw [List.flatMap_map]
    exact congrArg (rest.flatMap ·) (funext (cons_toList_label ','))
  have hjoined := toList_intercalate_comma (label p.1 p.2) (rest.map fun q ↦ label q.1 q.2)
  rw [hrest] at hjoined
  rw [labels, if_neg (List.cons_ne_nil p rest), String.toList_append, String.toList_append]
  calc
    _ = '\x7b' :: (String.intercalate ","
          (label p.1 p.2 :: rest.map fun q ↦ label q.1 q.2)).toList ++ ['\x7d'] := rfl
    _ = labelChars '\x7b' p ++ rest.flatMap (labelChars ',') ++ ['\x7d'] := by
      rw [hjoined, ← List.cons_append, cons_toList_label]

/-! ### Reading labels -/

theorem plain_front {lead : Char} {key : List Char} (hlead : Plain [lead]) (hkey : Plain key) :
    Plain (lead :: key ++ ['=']) := by
  intro c hc
  simp only [List.cons_append, List.mem_cons, List.mem_append, List.not_mem_nil, or_false] at hc
  obtain rfl | hc | rfl := hc
  · exact hlead c (List.mem_singleton.mpr rfl)
  · exact hkey c hc
  · decide

theorem readPairs_labelChars {lead : Char} {p : String × String} (hlead : Plain [lead])
    (hkey : Plain p.1.toList) (rest : List Char) :
    readPairs ((cutQuotes (labelChars lead p ++ rest)).1 ::
        (cutQuotes (labelChars lead p ++ rest)).2) =
      p :: readPairs ((cutQuotes rest).1 :: (cutQuotes rest).2) := by
  have hfront := plain_front hlead hkey
  have hparts : labelChars lead p ++ rest =
      (lead :: p.1.toList ++ ['=']) ++ '"' :: (p.2.toList.flatMap labelChar ++ '"' :: rest) := by
    simp [labelChars, escaped]
  have hcut : cutQuotes (labelChars lead p ++ rest) = (lead :: p.1.toList ++ ['='],
      p.2.toList.flatMap labelChar :: (cutQuotes rest).1 :: (cutQuotes rest).2) := by
    rw [hparts, cutQuotes_plain hfront, cutQuotes, cutQuotes_escaped, cutQuotes]
    simp
  rw [hcut, readPairs, unescape_escaped]
  simp

/-- A reader gets all pairs back. -/
theorem readLabels_labels {a : Config.Attributes} (h : ∀ p ∈ a, Config.AttributeKey p.1) :
    readLabels (labels a) = a := by
  have hothers : ∀ l : Config.Attributes, (∀ p ∈ l, Config.AttributeKey p.1) →
      readPairs ((cutQuotes (l.flatMap (labelChars ',') ++ ['\x7d'])).1 ::
        (cutQuotes (l.flatMap (labelChars ',') ++ ['\x7d'])).2) = l := by
    intro l hl
    induction l with
    | nil => rfl
    | cons p rest ih =>
      obtain ⟨hp, hrest⟩ := List.forall_mem_cons.mp hl
      rw [List.flatMap_cons, List.append_assoc,
        readPairs_labelChars (by simp [Plain]) (plain_key hp), ih hrest]
  cases a with
  | nil => rfl
  | cons p rest =>
    obtain ⟨hp, hrest⟩ := List.forall_mem_cons.mp h
    rw [readLabels, toList_labels_cons, List.append_assoc,
      readPairs_labelChars (by simp [Plain]) (plain_key hp), hothers rest hrest]

/-! ### Quotes -/

/-- The characters of a label, each with whether it is written for the value. -/
def markedLabel (lead : Char) (p : String × String) : List (Char × Bool) :=
  (lead :: p.1.toList ++ ['=']).map (·, false) ++ [('"', false)] ++ (escaped p.2).map (·, true) ++
    [('"', false)]

/-- The characters of labels, each with whether it is written for a value. -/
def markedLabels : Config.Attributes → List (Char × Bool)
  | [] => []
  | p :: rest => markedLabel '\x7b' p ++ rest.flatMap (markedLabel ',') ++ [('\x7d', false)]

/-- How many backslashes a text ends with. -/
def backslashes (cs : List Char) : Nat := (cs.reverse.takeWhile (· = '\\')).length

/-- Whether the number of backslashes at the end is odd once a character has been added. -/
def oddAfter (odd : Bool) (c : Char) : Bool := c == '\\' && !odd

theorem foldl_oddAfter (cs : List Char) :
    cs.foldl oddAfter false = true ↔ backslashes cs % 2 = 1 := by
  induction cs using List.reverseRecOn with
  | nil => decide
  | append_singleton cs c ih =>
    rw [List.foldl_concat, oddAfter, backslashes, List.reverse_concat, List.takeWhile_cons]
    by_cases hc : c = '\\'
    · have hmore : backslashes cs % 2 = 1 ↔ ¬ (backslashes cs + 1) % 2 = 1 := by omega
      simp only [hc, beq_self_eq_true, Bool.true_and, Bool.not_eq_true', decide_true, if_true,
        List.length_cons, ← Bool.not_eq_true, ih, hmore, not_not]
      rfl
    · simp [hc]

/-- Behind an odd or even number of backslashes, every quote that follows is written for a value if
and only if the number in front of it is odd. -/
def QuotesTell : Bool → List (Char × Bool) → Prop
  | _, [] => True
  | odd, (c, inside) :: rest => (c = '"' → odd = inside) ∧ QuotesTell (oddAfter odd c) rest

theorem quotesTell_append {odd : Bool} {l m : List (Char × Bool)} :
    QuotesTell odd (l ++ m) ↔
      QuotesTell odd l ∧ QuotesTell ((l.map Prod.fst).foldl oddAfter odd) m := by
  induction l generalizing odd with
  | nil => simp [QuotesTell]
  | cons p rest ih =>
    rw [List.cons_append, QuotesTell, QuotesTell, ih, and_assoc]
    rfl

/-- Quotes tell where they belong, and what follows starts as if nothing stood in front of it. -/
structure Neutral (l : List (Char × Bool)) : Prop where
  tells : QuotesTell false l
  even : (l.map Prod.fst).foldl oddAfter false = false

theorem Neutral.append {l m : List (Char × Bool)} (hl : Neutral l) (hm : Neutral m) :
    Neutral (l ++ m) := by
  constructor
  · rw [quotesTell_append, hl.even]
    exact ⟨hl.tells, hm.tells⟩
  · rw [List.map_append, List.foldl_append, hl.even, hm.even]

theorem neutral_flatMap {α : Type} {f : α → List (Char × Bool)} {as : List α}
    (h : ∀ a ∈ as, Neutral (f a)) : Neutral (as.flatMap f) := by
  induction as with
  | nil => exact ⟨trivial, rfl⟩
  | cons a rest ih =>
    obtain ⟨ha, hrest⟩ := List.forall_mem_cons.mp h
    rw [List.flatMap_cons]
    exact ha.append (ih hrest)

theorem neutral_plain {cs : List Char} (h : Plain cs) (inside : Bool) :
    Neutral (cs.map (·, inside)) := by
  rw [List.map_eq_flatMap]
  refine neutral_flatMap fun c hc ↦ ?_
  obtain ⟨hquote, hbackslash⟩ := h c hc
  exact ⟨⟨fun heq ↦ absurd heq hquote, trivial⟩, by simp [oddAfter, hbackslash]⟩

theorem neutral_quote : Neutral [('"', false)] := ⟨⟨fun _ ↦ rfl, trivial⟩, rfl⟩

/-- A quote in a value stands behind the backslash that is written for it and an even number of
others. -/
theorem neutral_escaped (value : String) : Neutral ((escaped value).map (·, true)) := by
  rw [escaped, List.map_flatMap]
  refine neutral_flatMap fun c _ ↦ ?_
  obtain ⟨e, h, -⟩ | ⟨hquote, hbackslash, h⟩ := labelChar_cases c
  · rw [h]
    exact ⟨⟨fun heq ↦ absurd heq (by decide), fun _ ↦ rfl, trivial⟩, by simp [oddAfter]⟩
  · rw [h]
    refine neutral_plain (fun c' hc' ↦ ?_) true
    obtain rfl := List.mem_singleton.mp hc'
    exact ⟨hquote, hbackslash⟩

theorem neutral_markedLabel {lead : Char} {p : String × String} (hlead : Plain [lead])
    (hkey : Plain p.1.toList) : Neutral (markedLabel lead p) :=
  (((neutral_plain (plain_front hlead hkey) false).append neutral_quote).append
    (neutral_escaped p.2)).append neutral_quote

theorem neutral_markedLabels {a : Config.Attributes} (h : ∀ p ∈ a, Config.AttributeKey p.1) :
    Neutral (markedLabels a) := by
  cases a with
  | nil => exact ⟨trivial, rfl⟩
  | cons p rest =>
    obtain ⟨hp, hrest⟩ := List.forall_mem_cons.mp h
    have hfirst : Neutral (markedLabel '\x7b' p) :=
      neutral_markedLabel (by simp [Plain]) (plain_key hp)
    have hothers : Neutral (rest.flatMap (markedLabel ',')) :=
      neutral_flatMap fun q hq ↦ neutral_markedLabel (by simp [Plain]) (plain_key (hrest q hq))
    have hlast : Neutral [('\x7d', false)] := ⟨⟨fun heq ↦ absurd heq (by decide), trivial⟩, rfl⟩
    exact (hfirst.append hothers).append hlast

theorem map_fst_markedLabel (lead : Char) (p : String × String) :
    (markedLabel lead p).map Prod.fst = labelChars lead p := by
  simp [markedLabel, labelChars, Function.comp_def]

theorem map_fst_markedLabels (a : Config.Attributes) :
    (markedLabels a).map Prod.fst = (labels a).toList := by
  cases a with
  | nil => rfl
  | cons p rest =>
    rw [toList_labels_cons, markedLabels, List.map_append, List.map_append, List.map_flatMap,
      map_fst_markedLabel, funext (map_fst_markedLabel ',')]
    rfl

/-! ### Attributes and series -/

/-- The attributes have passed the check of their keys. -/
def Accepted (a : Config.Attributes) : Prop :=
  ∃ written trail, Scope.buildAttributes written trail = .ok a

/-- What is written for attributes can be read, as a whole and quote by quote. -/
structure Readable (a : Config.Attributes) : Prop where
  decoded : readLabels (labels a) = a
  oneLine : '\n' ∉ (labels a).toList
  marked : (markedLabels a).map Prod.fst = (labels a).toList
  quotes : ∀ front inside back, markedLabels a = front ++ ('"', inside) :: back →
    (backslashes (front.map Prod.fst) % 2 = 1 ↔ inside = true)

theorem readable {a : Config.Attributes} (h : ∀ p ∈ a, Config.AttributeKey p.1) : Readable a where
  decoded := readLabels_labels h
  oneLine := lineEnds_eq_zero_iff.mp (lineEnds_labels fun p hp ↦ lineEnds_attributeKey (h p hp))
  marked := map_fst_markedLabels a
  quotes := by
    intro front inside back hsplit
    have htells := (neutral_markedLabels h).tells
    rw [hsplit, quotesTell_append] at htells
    rw [← foldl_oddAfter, htells.2.1 rfl]

theorem labels_inj {a b : Config.Attributes} (ha : ∀ p ∈ a, Config.AttributeKey p.1)
    (hb : ∀ p ∈ b, Config.AttributeKey p.1) (h : labels a = labels b) : a = b := by
  rw [← readLabels_labels ha, h, readLabels_labels hb]

theorem Accepted.attributeKey {a : Config.Attributes} (h : Accepted a) :
    ∀ p ∈ a, Config.AttributeKey p.1 := by
  obtain ⟨written, trail, h⟩ := h
  have hwritten : Scope.attributesOr (some written) none trail = .ok (some a) :=
    Outcome.map_eq_ok_iff.mpr ⟨a, h, rfl⟩
  exact (Scope.attributesOr_valid hwritten (by simp) a rfl).2

/-- What stands in front of the reading of a metric. -/
def shownAs (m : Config.Metric) : String := m.names.prometheus ++ labels m.attributes

/-- Each metric is shown with its name and labels, and they tell metrics of the same name apart. -/
structure SeriesApart (metrics : List Config.Metric) : Prop where
  line_eq : ∀ m ∈ metrics, ∀ s, Shows m s →
    s.line s.name = shownAs m ++ " " ++ toString s.reading.toInt ++ "\n"
  apart : metrics.Pairwise fun m m' ↦
    m.names.prometheus = m'.names.prometheus → shownAs m ≠ shownAs m'

theorem seriesApart_of_valid {config : Config} (h : config.Valid) : SeriesApart config.metrics where
  line_eq := by
    intro m _ s hs
    rw [Sample.line, shownAs, hs.name, hs.attributes]
  apart := by
    refine h.series.imp_of_mem fun {m m'} hm hm' hdiffer hname hshown ↦ hdiffer ⟨hname, fun k ↦ ?_⟩
    have hlabels : labels m.attributes = labels m'.attributes := by
      rw [shownAs, shownAs, hname] at hshown
      exact String.append_right_inj _ |>.mp hshown
    rw [labels_inj (h.metrics m hm).attributes (h.metrics m' hm').attributes hlabels]

/-- Labels of accepted attributes can be read back, so different attributes have different labels,
and metrics of the same name in a compiled configuration are shown differently. -/
theorem labels_readable :
    (∀ a, Accepted a → Readable a) ∧
      (∀ a b, Accepted a → Accepted b → labels a = labels b → a = b) ∧
        ∀ (d : Decl.Document) config, d.compile = .ok config → SeriesApart config.metrics :=
  ⟨fun _ ha ↦ readable ha.attributeKey, fun _ _ ha hb ↦ labels_inj ha.attributeKey hb.attributeKey,
    fun _ _ h ↦ seriesApart_of_valid (Config.valid_of_compile h)⟩

end TelemetrySim.Exposition

/-! ### A demonstration

Values with a backslash at the end and with the text of another label inside. -/

namespace TelemetrySim.Demo

open Exposition

def shelf : Config.Attributes := [("aisle", "a\\"), ("slot", "b")]

/-- A single value that looks like the two of the shelf. -/
def forgedShelf : Config.Attributes := [("aisle", "a\\\",slot=\"b")]

def shelves : Decl.Document where
  metrics := [
    { name := .same "stock", kind := some "gauge", description := some "Stock"
      value := some toss, attributes := some shelf },
    { name := .same "stock", kind := some "gauge", description := some "Stock"
      value := some toss, attributes := some forgedShelf }]

def shelvesConfig : Config where
  instances := ⟨[], [], []⟩
  metrics := [
    ⟨⟨"stock", "stock"⟩, .gauge, "Stock", tossed, shelf⟩,
    ⟨⟨"stock", "stock"⟩, .gauge, "Stock", tossed, forgedShelf⟩]
  exporter := .pull {}
  settings := { seed := none, internalMetrics := ⟨false, .prometheus⟩ }

/-- The forged labels differ from those of the shelf. -/
theorem shelves_readable :
    labels shelf = "\x7baisle=\"a\\\\\",slot=\"b\"\x7d" ∧
      labels forgedShelf = "\x7baisle=\"a\\\\\\\",slot=\\\"b\"\x7d" ∧
        (Accepted shelf ∧ Readable shelf) ∧ (Accepted forgedShelf ∧ Readable forgedShelf) ∧
          (shelf ≠ forgedShelf ∧ labels shelf ≠ labels forgedShelf) ∧
            shelves.compile = .ok shelvesConfig ∧ SeriesApart shelvesConfig.metrics := by
  obtain ⟨hreadable, hinjective, hapart⟩ := labels_readable
  have hshelf : Accepted shelf := ⟨shelf, [], by with_unfolding_all rfl⟩
  have hforged : Accepted forgedShelf := ⟨forgedShelf, [], by with_unfolding_all rfl⟩
  have hne : shelf ≠ forgedShelf := by decide
  have hcompile : shelves.compile = .ok shelvesConfig := by with_unfolding_all rfl
  exact ⟨by with_unfolding_all rfl, by with_unfolding_all rfl, ⟨hshelf, hreadable _ hshelf⟩,
    ⟨hforged, hreadable _ hforged⟩,
    ⟨hne, fun heq ↦ hne (hinjective _ _ hshelf hforged heq)⟩,
    hcompile, hapart _ _ hcompile⟩

end TelemetrySim.Demo
