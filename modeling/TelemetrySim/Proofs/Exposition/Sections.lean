import TelemetrySim.Proofs.Exposition.Registry
import TelemetrySim.Proofs.Sorted

/-!
The text as a list of sections, one for each name. The samples are put into families while they are
read; what comes out is the same as if the different names were taken in the order in which they
first appear, and for each of them all samples of the name were looked up (`text_eq_join_sections`).
So nothing is lost in the grouping and nothing is written twice (`render_sections`).
-/

set_option autoImplicit false
set_option relaxedAutoImplicit false

namespace TelemetrySim.Exposition

/-- The line of a sample: its name, its labels ordered by their keys, and its reading. -/
def sampleText (s : Sample) : String :=
  s.name ++ labels (Assoc.sorted s.attributes) ++ " " ++ toString s.reading.toInt ++ "\n"

/-- What is written for a name: a help line with the description of its first sample, a type line,
and the lines of all its samples. -/
def sectionText (samples : List Sample) (name : String) : String :=
  match samples.filter (·.name = name) with
  | [] => ""
  | first :: rest =>
    "# HELP " ++ name ++ " " ++ escapeHelp first.description ++ "\n" ++
      ("# TYPE " ++ name ++ " " ++ first.kind.label ++ "\n") ++
        String.join ((first :: rest).map sampleText)

/-- The text consists of the sections of the names, in this order. -/
structure Sections (samples : List Sample) (order : List String) (text : String) : Prop where
  appearance : FirstAppearance (samples.map Sample.name) order
  text_eq : text = String.join (order.map (sectionText samples))
  /-- Every sample belongs to exactly one section, and stands there once. -/
  once : (order.flatMap fun n ↦ samples.filter (·.name = n)).Perm samples

section

variable {samples : List Sample}

theorem line_eq_sampleText {name : String} {s : Sample} (hname : s.name = name)
    (hs : Assoc.Sorted s.attributes) : s.line name = sampleText s := by
  rw [sampleText, hs.sorted_eq, hname, Sample.line]

theorem Family.text_eq_sectionText (hsorted : ∀ s ∈ samples, Assoc.Sorted s.attributes) {f : Family}
    (hf : f ∈ families samples) : f.text = sectionText samples f.name := by
  have hmembers : samples.filter (·.name = f.name) = f.first :: f.rest :=
    ((grouped_families samples).samples_eq f hf).symm
  have hlines : f.samples.map (Sample.line f.name) = (f.first :: f.rest).map sampleText := by
    refine List.map_congr_left fun s hs ↦ ?_
    have hmem : s ∈ samples.filter (·.name = f.name) := by
      rw [hmembers]
      exact hs
    exact line_eq_sampleText (name_of_mem_family hf hs) (hsorted s (List.mem_filter.mp hmem).1)
  rw [sectionText, hmembers, Family.text, hlines]
  rfl

theorem map_families {α : Type} (f : String → α) :
    (families samples).map (fun fam ↦ f fam.name) =
      (samples.map Sample.name).eraseDups.map f := by
  rw [← (grouped_families samples).names, List.map_map]
  rfl

/-- Gathering samples in families writes the sections of their names. -/
theorem text_eq_join_sections (hsorted : ∀ s ∈ samples, Assoc.Sorted s.attributes) :
    text samples =
      String.join ((samples.map Sample.name).eraseDups.map (sectionText samples)) := by
  rw [text, ← map_families]
  exact congrArg String.join
    (List.map_congr_left fun f hf ↦ Family.text_eq_sectionText hsorted hf)

theorem flatMap_filter_perm (samples : List Sample) :
    ((samples.map Sample.name).eraseDups.flatMap fun n ↦ samples.filter (·.name = n)).Perm
      samples := by
  have hmembers : (families samples).map (fun f ↦ samples.filter (·.name = f.name)) =
      (families samples).map Family.samples :=
    List.map_congr_left fun f hf ↦ ((grouped_families samples).samples_eq f hf).symm
  rw [List.flatMap_def, ← map_families, hmembers, ← List.flatMap_def]
  exact families_perm samples

theorem sections_text (hsorted : ∀ s ∈ samples, Assoc.Sorted s.attributes) :
    Sections samples (samples.map Sample.name).eraseDups (text samples) :=
  ⟨firstAppearance_eraseDups _, text_eq_join_sections hsorted, flatMap_filter_perm samples⟩

end

/-- Whatever metrics are shown, in whatever state, the text has one section for each of their names,
in the order in which the names first appear, and every metric stands in one of them, with the
reading that is taken when all metrics are read in their order. -/
theorem Registry.render_sections {r : Registry} (hr : ∀ s ∈ r, Assoc.Sorted s.attributes)
    {ρ : Type} (g : Live.Generator (Live.Circuit ρ)) :
    ∃ readings order, (readings.map Prod.fst = r ∧ r.readAll g = (readings, (r.render g).2)) ∧
      Sections (readings.map sample) order (r.render g).1 := by
  have hseries := readAll_fst r g
  have hsorted : ∀ s ∈ (r.readAll g).1.map sample, Assoc.Sorted s.attributes := by
    intro s hs
    obtain ⟨p, hp, rfl⟩ := List.mem_map.mp hs
    have hmem : p.1 ∈ (r.readAll g).1.map Prod.fst := List.mem_map_of_mem hp
    exact hr p.1 (hseries ▸ hmem)
  rw [render_eq]
  exact ⟨_, _, ⟨hseries, rfl⟩, sections_text hsorted⟩

end TelemetrySim.Exposition

/-! ### A demonstration

Two metrics of one name, with a metric of another name in between, whose description has a
backslash and a line end. -/

namespace TelemetrySim.Demo

open Exposition

def queues : Exposition.Registry := [
  ⟨⟨"jobs", "jobs"⟩, .counter, "Jobs \"done\"", [("host", "h"), ("queue", "a\"b")], 0⟩,
  ⟨⟨"depth", "depth"⟩, .gauge, "Depth of C:\\jobs\nat noon", [], 1⟩,
  ⟨⟨"jobs", "jobs"⟩, .counter, "Jobs", [("queue", "c")], 2⟩]

/-- A generator that has nothing but the values of the three metrics. -/
def queueReadings : Live.Generator where
  objects := {
    seeds := .ofSetting none 0
    values := #[⟨[], .never, 3, false⟩, ⟨[], .never, 5, false⟩, ⟨[], .never, 8, false⟩] }
  clockList := []
  clocks := []
  feeds := []
  sourceCount := 0
  metrics := #[]

/-- The lines of the two metrics of one name stand together, and the description with a line end
stands on one line. -/
theorem queues_sections :
    (queues.render queueReadings).1 =
        "# HELP jobs Jobs \"done\"\n# TYPE jobs counter\n" ++
          "jobs\x7bhost=\"h\",queue=\"a\\\"b\"\x7d 3\njobs\x7bqueue=\"c\"\x7d 8\n" ++
            "# HELP depth Depth of C:\\\\jobs\\nat noon\n# TYPE depth gauge\ndepth 5\n" ∧
      (∀ s ∈ queues, Assoc.Sorted s.attributes) ∧
        ∃ readings order, (readings.map Prod.fst = queues ∧
            queues.readAll queueReadings = (readings, (queues.render queueReadings).2)) ∧
          Sections (readings.map Exposition.Registry.sample) order (queues.render queueReadings).1 :=
  have hsorted : ∀ s ∈ queues, Assoc.Sorted s.attributes := by decide
  ⟨by with_unfolding_all rfl, hsorted,
    Exposition.Registry.render_sections hsorted queueReadings⟩

end TelemetrySim.Demo
