import Mathlib.Algebra.GroupWithZero.Nat
import Mathlib.Algebra.Order.BigOperators.Group.List
import TelemetrySim.Proofs.Exposition.Escapes
import TelemetrySim.Proofs.Exposition.Registry
import TelemetrySim.Proofs.Resolution.Valid

/-!
Line ends in the text. Descriptions and values of attributes are escaped, keys of attributes have
letters, digits and underscores only, and readings are digits, so the only text that can bring a
line end of its own into a line is the name of the metric (`Line.lineEnds_content`). The text of a
configuration therefore has as many lines as it should exactly if no metric has a line end in its
name (`lineEnds_of_config`), which nothing asks of a name (`Demo.forged_lines`).
-/

set_option autoImplicit false
set_option relaxedAutoImplicit false

namespace TelemetrySim.Exposition

/-! ### Line ends of a text -/

/-- How many line ends a text has. -/
def lineEnds (s : String) : Nat := s.toList.count '\n'

theorem lineEnds_eq_zero_iff {s : String} : lineEnds s = 0 ↔ '\n' ∉ s.toList :=
  List.count_eq_zero

theorem lineEnds_append (s t : String) : lineEnds (s ++ t) = lineEnds s + lineEnds t := by
  rw [lineEnds, String.toList_append, List.count_append]
  rfl

theorem lineEnds_join (l : List String) : lineEnds (String.join l) = (l.map lineEnds).sum := by
  induction l with
  | nil => rfl
  | cons s rest ih => rw [String.join_cons, lineEnds_append, ih, List.map_cons, List.sum_cons]

theorem lineEnds_ofList_flatMap {f : Char → List Char} (hf : ∀ c, '\n' ∉ f c) (s : String) :
    lineEnds (String.ofList (s.toList.flatMap f)) = 0 := by
  rw [lineEnds_eq_zero_iff, String.toList_ofList, List.mem_flatMap]
  rintro ⟨c, -, hc⟩
  exact hf c hc

theorem notMem_helpChar (c : Char) : '\n' ∉ helpChar c := by
  unfold helpChar
  split_ifs with hbackslash hend
  · decide
  · decide
  · rw [List.mem_singleton]
    exact Ne.symm hend

theorem notMem_labelChar (c : Char) : '\n' ∉ labelChar c := by
  unfold labelChar
  split_ifs
  · decide
  · exact notMem_helpChar c

theorem lineEnds_escapeHelp (s : String) : lineEnds (escapeHelp s) = 0 := by
  rw [escapeHelp_eq, lineEnds_ofList_flatMap notMem_helpChar]

theorem lineEnds_escapeLabel (s : String) : lineEnds (escapeLabel s) = 0 := by
  rw [escapeLabel_eq, lineEnds_ofList_flatMap notMem_labelChar]

theorem lineEnds_label {key : String} (hkey : lineEnds key = 0) (value : String) :
    lineEnds (label key value) = 0 := by
  rw [label, lineEnds_append, lineEnds_append, lineEnds_append, hkey, lineEnds_escapeLabel]
  rfl

theorem lineEnds_intercalate {separator : String} (hseparator : lineEnds separator = 0)
    {l : List String} (hl : ∀ s ∈ l, lineEnds s = 0) :
    lineEnds (String.intercalate separator l) = 0 := by
  induction l with
  | nil => rfl
  | cons s rest ih =>
    have hs : lineEnds s = 0 := hl s List.mem_cons_self
    have hrest := ih fun t ht ↦ hl t (List.mem_cons_of_mem s ht)
    cases rest with
    | nil => rw [String.intercalate_singleton, hs]
    | cons t others =>
      rw [String.intercalate_cons_cons, lineEnds_append, lineEnds_append, hs, hseparator, hrest]

theorem lineEnds_labels {attributes : Config.Attributes}
    (hkeys : ∀ p ∈ attributes, lineEnds p.1 = 0) : lineEnds (labels attributes) = 0 := by
  unfold labels
  split_ifs
  · rfl
  · rw [lineEnds_append, lineEnds_append, lineEnds_intercalate rfl]
    · rfl
    · intro s hs
      obtain ⟨p, hp, rfl⟩ := List.mem_map.mp hs
      exact lineEnds_label (hkeys p hp) p.2

theorem lineEnds_repr (n : Nat) : lineEnds n.repr = 0 := by
  rw [lineEnds_eq_zero_iff, Nat.toList_repr]
  intro hmem
  have hdigit := Nat.isDigit_of_mem_toDigits (by omega) (by omega) hmem
  exact absurd hdigit (by decide)

theorem lineEnds_toString (i : Int) : lineEnds (toString i) = 0 := by
  rw [Int.toString_eq_repr, Int.repr_eq_if]
  split_ifs
  · exact lineEnds_repr _
  · rw [lineEnds_append, lineEnds_repr]
    rfl

theorem lineEnds_attributeKey {k : String} (h : Config.AttributeKey k) : lineEnds k = 0 := by
  rw [lineEnds_eq_zero_iff]
  intro hend
  exact absurd (h.rest '\n' hend) (by decide)

/-! ### Line ends of a line -/

/-- The name of the family that a line belongs to. -/
def Line.name : Line → String
  | help name _ => name
  | type name _ => name
  | sample s => s.name

/-- A line up to its end. -/
def Line.content : Line → String
  | help name description => "# HELP " ++ name ++ " " ++ escapeHelp description
  | type name kind => "# TYPE " ++ name ++ " " ++ kind.label
  | sample s => s.name ++ labels s.attributes ++ " " ++ toString s.reading.toInt

theorem Line.text_eq (l : Line) : l.text = l.content ++ "\n" := by
  cases l with
  | help => rfl
  | type => rfl
  | sample => rfl

/-- A sample that has attributes as they are accepted. -/
def Sample.Labelled (s : Sample) : Prop := ∀ p ∈ s.attributes, Config.AttributeKey p.1

/-- Apart from the name, nothing in a line brings a line end with it. -/
theorem Line.lineEnds_content {l : Line} (h : ∀ s, l = .sample s → s.Labelled) :
    lineEnds l.content = lineEnds l.name := by
  cases l with
  | help name description =>
    have hprefix : lineEnds "# HELP " = 0 := rfl
    have hspace : lineEnds " " = 0 := rfl
    simp only [content, lineEnds_append, hprefix, hspace, lineEnds_escapeHelp, Nat.zero_add,
      Nat.add_zero, Line.name]
  | type name kind =>
    have hprefix : lineEnds "# TYPE " = 0 := rfl
    have hspace : lineEnds " " = 0 := rfl
    have hkind : lineEnds kind.label = 0 := by cases kind <;> rfl
    simp only [content, lineEnds_append, hprefix, hspace, hkind, Nat.zero_add, Nat.add_zero,
      Line.name]
  | sample s =>
    have hlabels : lineEnds (labels s.attributes) = 0 :=
      lineEnds_labels fun p hp ↦ lineEnds_attributeKey (h s rfl p hp)
    have hspace : lineEnds " " = 0 := rfl
    simp only [content, lineEnds_append, hlabels, hspace, lineEnds_toString, Nat.add_zero,
      Line.name]

/-! ### Lines of a text -/

def Line.helpName : Line → Option String
  | help name _ => some name
  | type _ _ | sample _ => none

def Line.typeName : Line → Option String
  | type name _ => some name
  | help _ _ | sample _ => none

def Line.sample? : Line → Option Sample
  | sample s => some s
  | help _ _ | type _ _ => none

variable {samples : List Sample}

/-- What each family has once in its lines is there once for each name. -/
theorem filterMap_lines_eq_names {f : Line → Option String}
    (hf : ∀ fam : Family, fam.lines.filterMap f = [fam.name]) (samples : List Sample) :
    (lines samples).filterMap f = (samples.map Sample.name).eraseDups := by
  rw [lines, List.filterMap_flatMap, funext hf, ← (grouped_families samples).names]
  exact List.map_eq_flatMap.symm

theorem helpNames_lines (samples : List Sample) :
    (lines samples).filterMap Line.helpName = (samples.map Sample.name).eraseDups :=
  filterMap_lines_eq_names
    (fun fam ↦ by simp [Family.lines, List.filterMap_cons, Line.helpName]) samples

theorem typeNames_lines (samples : List Sample) :
    (lines samples).filterMap Line.typeName = (samples.map Sample.name).eraseDups :=
  filterMap_lines_eq_names
    (fun fam ↦ by simp [Family.lines, List.filterMap_cons, Line.typeName]) samples

theorem samples_lines_perm (samples : List Sample) :
    ((lines samples).filterMap Line.sample?).Perm samples := by
  have hfamily : ∀ fam : Family, fam.lines.filterMap Line.sample? = fam.samples := by
    intro fam
    simp [Family.lines, List.filterMap_cons, Line.sample?, Function.comp_def]
  rw [lines, List.filterMap_flatMap, funext hfamily]
  exact families_perm samples

theorem Family.sum_lines (weight : String → Nat) (fam : Family) :
    (fam.lines.map fun l ↦ weight l.name).sum =
      2 * weight fam.name + ((fam.samples.map Sample.name).map weight).sum := by
  simp only [Family.lines, List.map_cons, List.sum_cons, List.map_map, Line.name]
  rw [Nat.two_mul, Nat.add_assoc]
  rfl

/-- Every name stands on its two header lines and on the line of each of its samples. -/
theorem sum_lines (weight : String → Nat) (samples : List Sample) :
    ((lines samples).map fun l ↦ weight l.name).sum =
      2 * ((samples.map Sample.name).eraseDups.map weight).sum +
        ((samples.map Sample.name).map weight).sum := by
  have hfamilies : ∀ fs : List Family, ((fs.flatMap Family.lines).map fun l ↦ weight l.name).sum =
      2 * ((fs.map Family.name).map weight).sum +
        (((fs.flatMap Family.samples).map Sample.name).map weight).sum := by
    intro fs
    induction fs with
    | nil => rfl
    | cons fam rest ih =>
      simp only [List.flatMap_cons, List.map_append, List.sum_append_nat, List.map_cons,
        List.sum_cons, fam.sum_lines weight, ih]
      omega
  rw [lines, hfamilies, (grouped_families samples).names,
    (((families_perm samples).map Sample.name).map weight).sum_nat]

/-! ### The number of lines -/

/-- The line ends that names bring into the text: each name stands in two lines of its own and in
that of each metric that has it. -/
def excess (names : List String) : Nat :=
  2 * (names.eraseDups.map lineEnds).sum + (names.map lineEnds).sum

theorem excess_eq_zero_iff {names : List String} :
    excess names = 0 ↔ ∀ n ∈ names, '\n' ∉ n.toList := by
  have hmem := (firstAppearance_eraseDups names).mem_iff
  have hsum : ∀ l : List String, (l.map lineEnds).sum = 0 ↔ ∀ n ∈ l, '\n' ∉ n.toList := by
    intro l
    simp only [List.sum_eq_zero_iff, List.forall_mem_map, lineEnds_eq_zero_iff]
  unfold excess
  rw [Nat.add_eq_zero_iff, Nat.mul_eq_zero, hsum, hsum]
  simp only [hmem]
  simp

/-- The lines of a text with samples of these names. -/
structure Laid (names : List String) (samples : List Sample) (text : String) : Prop where
  help : (lines samples).filterMap Line.helpName = names.eraseDups
  type : (lines samples).filterMap Line.typeName = names.eraseDups
  sample : ((lines samples).filterMap Line.sample?).Perm samples
  lineEnds_eq : lineEnds text = 2 * names.eraseDups.length + names.length + excess names
  lineEnds_iff : lineEnds text = 2 * names.eraseDups.length + names.length ↔
    ∀ n ∈ names, '\n' ∉ n.toList
  /-- What is written for a line is a single line. -/
  single : (∀ n ∈ names, '\n' ∉ n.toList) → ∀ l ∈ lines samples,
    l.text = l.content ++ "\n" ∧ '\n' ∉ l.content.toList

theorem Line.name_mem {l : Line} (hl : l ∈ lines samples) :
    l.name ∈ samples.map Sample.name := by
  obtain ⟨f, hf, hl⟩ := List.mem_flatMap.mp hl
  have hname : f.name ∈ samples.map Sample.name := by
    rw [← (firstAppearance_eraseDups _).mem_iff, ← (grouped_families samples).names]
    exact List.mem_map_of_mem hf
  simp only [Family.lines, List.mem_cons, List.mem_map] at hl
  obtain rfl | rfl | ⟨s, hs, rfl⟩ := hl
  · exact hname
  · exact hname
  · have hsame : s.name = f.name := name_of_mem_family hf hs
    rw [Line.name, hsame]
    exact hname

theorem mem_of_mem_lines {s : Sample} (hs : .sample s ∈ lines samples) : s ∈ samples :=
  (samples_lines_perm samples).mem_iff.mp (List.mem_filterMap.mpr ⟨_, hs, rfl⟩)

theorem laid (h : ∀ s ∈ samples, s.Labelled) :
    Laid (samples.map Sample.name) samples (String.join ((lines samples).map Line.text)) := by
  have hcontent : ∀ l ∈ lines samples, lineEnds l.content = lineEnds l.name := by
    intro l hl
    refine Line.lineEnds_content fun s hs ↦ h s ?_
    exact mem_of_mem_lines (hs ▸ hl)
  have htext : ∀ l ∈ lines samples, lineEnds l.text = lineEnds l.name + 1 := by
    intro l hl
    rw [l.text_eq, lineEnds_append, hcontent l hl]
    rfl
  have htotal : lineEnds (String.join ((lines samples).map Line.text)) =
      2 * (samples.map Sample.name).eraseDups.length + (samples.map Sample.name).length +
        excess (samples.map Sample.name) := by
    have hone : ∀ l : List String, (l.map fun n ↦ lineEnds n + 1).sum =
        (l.map lineEnds).sum + l.length := by
      intro l
      induction l with
      | nil => rfl
      | cons n rest ih =>
        rw [List.map_cons, List.map_cons, List.sum_cons, List.sum_cons, ih, List.length_cons]
        omega
    have hlines : (lines samples).map (lineEnds ∘ Line.text) =
        (lines samples).map fun l ↦ lineEnds l.name + 1 := List.map_congr_left htext
    rw [lineEnds_join, List.map_map, hlines, sum_lines (fun n ↦ lineEnds n + 1), hone, hone, excess]
    omega
  exact {
    help := helpNames_lines samples
    type := typeNames_lines samples
    sample := samples_lines_perm samples
    lineEnds_eq := htotal
    lineEnds_iff := by
      rw [htotal, ← excess_eq_zero_iff]
      omega
    single := fun hnames l hl ↦ by
      refine ⟨l.text_eq, lineEnds_eq_zero_iff.mp ?_⟩
      rw [hcontent l hl, lineEnds_eq_zero_iff]
      exact hnames _ (Line.name_mem hl) }

/-- In every state of a generator, the text of a compiled configuration has two header lines for
each name and one line for each metric, and it has no further line ends exactly if no name of a
metric has any. -/
theorem lineEnds_of_config {ρ : Type} [Random.Rng ρ] {d : Decl.Document} {config : Config}
    {seeds : Random.Seeds} {g : Live.Generator (Live.Circuit ρ)} (hcompile : d.compile = .ok config)
    (hbuild : Live.Generator.ofConfig seeds config = .ok g) :
    ∃ r, Registry.ofMetrics config.metrics g = .ok r ∧ ∀ actions, ∃ samples,
      Exposes config.metrics samples (r.render (g.run actions)).1 ∧
        Laid (config.metrics.map (·.names.prometheus)) samples (r.render (g.run actions)).1 := by
  obtain ⟨r, hr, hexposes⟩ := render_exposes hbuild
  refine ⟨r, hr, fun actions ↦ ?_⟩
  obtain ⟨samples, hsamples⟩ := hexposes actions
  have hvalid := Config.valid_of_compile hcompile
  have hlabelled : ∀ s ∈ samples, s.Labelled := by
    intro s hs
    obtain ⟨m, hm, hshows⟩ := Pairing.exists_left hsamples.shows hs
    rw [Sample.Labelled, hshows.attributes]
    exact (hvalid.metrics m hm).attributes
  have hnames : samples.map Sample.name = config.metrics.map (·.names.prometheus) :=
    map_eq_of_shows (fun _ _ hms ↦ hms.name) hsamples.shows
  refine ⟨samples, hsamples, ?_⟩
  rw [hsamples.text_eq, ← hnames]
  exact laid hlabelled

end TelemetrySim.Exposition

/-! ### A demonstration

The name of the metric has a line end, behind which it looks like a sample of another metric. -/

namespace TelemetrySim.Demo

open Exposition

def forged : Decl.Document where
  metrics := [
    { name := .same "jobs\nforged 1", kind := some "gauge", description := some "Jobs"
      value := some toss }]

def forgedConfig : Config where
  instances := ⟨[], [], []⟩
  metrics := [⟨⟨"jobs\nforged 1", "jobs\nforged 1"⟩, .gauge, "Jobs", tossed, []⟩]
  exporter := .pull {}
  settings := { seed := none, internalMetrics := ⟨false, .prometheus⟩ }

/-- The text of one metric, which has one name, has six line ends in place of three. -/
theorem forged_lines :
    forged.check = .ok () ∧ forged.compile = .ok forgedConfig ∧
      ∃ (g : Live.Generator) (r : Exposition.Registry),
        Live.Generator.ofConfig (.ofSetting none 0) forgedConfig = .ok g ∧
        Registry.ofMetrics forgedConfig.metrics g = .ok r ∧
          (r.render g).1 = "# HELP jobs\nforged 1 Jobs\n# TYPE jobs\nforged 1 gauge\n" ++
            "jobs\nforged 1 0\n" ∧
          lineEnds (r.render g).1 = 6 ∧
          2 * (forgedConfig.metrics.map (·.names.prometheus)).eraseDups.length +
            forgedConfig.metrics.length = 3 :=
  ⟨by with_unfolding_all rfl, by with_unfolding_all rfl, _, _, by with_unfolding_all rfl,
    by with_unfolding_all rfl, by with_unfolding_all rfl, by with_unfolding_all rfl, rfl⟩

/-- The lines of the forged text. -/
theorem forged_laid :
    forged.compile = .ok forgedConfig ∧
      ∃ g : Live.Generator, Live.Generator.ofConfig (.ofSetting none 0) forgedConfig = .ok g ∧
        ∃ r, Registry.ofMetrics forgedConfig.metrics g = .ok r ∧ ∀ actions, ∃ samples,
          Exposes forgedConfig.metrics samples (r.render (g.run actions)).1 ∧
            Laid (forgedConfig.metrics.map (·.names.prometheus)) samples
              (r.render (g.run actions)).1 :=
  have hcompile : forged.compile = .ok forgedConfig := by with_unfolding_all rfl
  have hbuild : ∃ g : Live.Generator,
      Live.Generator.ofConfig (.ofSetting none 0) forgedConfig = .ok g :=
    ⟨_, by with_unfolding_all rfl⟩
  ⟨hcompile, hbuild.imp fun _ hg ↦ ⟨hg, lineEnds_of_config hcompile hg⟩⟩

end TelemetrySim.Demo
