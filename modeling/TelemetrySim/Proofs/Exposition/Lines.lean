import Mathlib.Data.List.Perm.Basic
import TelemetrySim.Exposition.Text
import TelemetrySim.Proofs.Appearance

/-!
The text of readings, line by line. Samples are gathered in families as they come, which puts each
of them into the family of its name and the families in the order in which the names first appear
(`grouped_families`). The text is a list of lines that is read off the families
(`text_eq_join_lines`), and whoever reads these lines from top to bottom meets each sample below the
header of its family (`exposed_lines`).
-/

set_option autoImplicit false
set_option relaxedAutoImplicit false

namespace TelemetrySim.Exposition

/-! ### Families -/

/-- Every name has one family, with all samples of the name. -/
structure Grouped (samples : List Sample) (fs : List Family) : Prop where
  names : fs.map Family.name = (samples.map Sample.name).eraseDups
  samples_eq : ∀ f ∈ fs, f.samples = samples.filter (·.name = f.name)

section

variable {s : Sample} {samples : List Sample} {fs : List Family}

theorem addSample_of_notMem (h : s.name ∉ fs.map Family.name) :
    addSample s fs = fs ++ [⟨s.name, s, []⟩] := by
  induction fs with
  | nil => rfl
  | cons f rest ih =>
    rw [List.map_cons, List.mem_cons, not_or] at h
    rw [addSample, if_neg (Ne.symm h.1), ih h.2]
    rfl

/-- A further sample of a family goes to its end. -/
def Family.add (s : Sample) (f : Family) : Family :=
  if f.name = s.name then { f with rest := f.rest ++ [s] } else f

theorem Family.name_add (s : Sample) (f : Family) : (f.add s).name = f.name := by
  unfold Family.add
  split_ifs
  · rfl
  · rfl

theorem Family.samples_add (s : Sample) (f : Family) :
    (f.add s).samples = f.samples ++ [s].filter (·.name = f.name) := by
  by_cases h : f.name = s.name
  · simp [Family.add, Family.samples, h]
  · simp [Family.add, Family.samples, h, Ne.symm h]

theorem addSample_of_mem (hnodup : (fs.map Family.name).Nodup) (h : s.name ∈ fs.map Family.name) :
    addSample s fs = fs.map (Family.add s) := by
  induction fs with
  | nil => simp at h
  | cons f rest ih =>
    rw [List.map_cons, List.nodup_cons] at hnodup
    rw [addSample, List.map_cons, Family.add]
    by_cases hname : f.name = s.name
    · have hothers : ∀ f' ∈ rest, f'.add s = id f' := by
        refine fun f' hf' ↦ if_neg fun hname' ↦ hnodup.1 ?_
        exact List.mem_map.mpr ⟨f', hf', hname'.trans hname.symm⟩
      rw [if_pos hname, if_pos hname, List.map_congr_left hothers, List.map_id]
    · rw [List.map_cons, List.mem_cons] at h
      rw [if_neg hname, if_neg hname, ih hnodup.2 (h.resolve_left (Ne.symm hname))]

theorem Grouped.concat (h : Grouped samples fs) (s : Sample) :
    Grouped (samples ++ [s]) (addSample s fs) := by
  have hmem : s.name ∈ fs.map Family.name ↔ s.name ∈ samples.map Sample.name := by
    rw [h.names]
    exact (firstAppearance_eraseDups _).mem_iff _
  by_cases hold : s.name ∈ fs.map Family.name
  · have hnodup : (fs.map Family.name).Nodup := by
      rw [h.names]
      exact (firstAppearance_eraseDups _).nodup
    have hnames : Family.name ∘ Family.add s = Family.name := funext (Family.name_add s)
    rw [addSample_of_mem hnodup hold]
    constructor
    · rw [List.map_map, hnames, h.names, List.map_append, List.map_singleton, eraseDups_concat,
        if_pos (hmem.mp hold)]
    · intro f hf
      obtain ⟨f', hf', rfl⟩ := List.mem_map.mp hf
      rw [Family.samples_add, Family.name_add, h.samples_eq f' hf', List.filter_append]
  · rw [addSample_of_notMem hold]
    constructor
    · rw [List.map_append, h.names, List.map_append, List.map_singleton, List.map_singleton,
        eraseDups_concat, if_neg fun hnew ↦ hold (hmem.mpr hnew)]
    · intro f hf
      rw [List.filter_append]
      rcases List.mem_append.mp hf with hf | hf
      · have hname : s.name ≠ f.name := fun hname ↦ hold (List.mem_map.mpr ⟨f, hf, hname.symm⟩)
        rw [h.samples_eq f hf]
        simp [hname]
      · obtain rfl := List.mem_singleton.mp hf
        have hnone : samples.filter (·.name = s.name) = [] := by
          refine List.filter_eq_nil_iff.mpr fun s' hs' hname ↦ hold (hmem.mpr ?_)
          exact List.mem_map.mpr ⟨s', hs', of_decide_eq_true hname⟩
        simp [hnone, Family.samples]

theorem addSample_perm (s : Sample) (fs : List Family) :
    ((addSample s fs).flatMap Family.samples).Perm (fs.flatMap Family.samples ++ [s]) := by
  induction fs with
  | nil => exact .refl _
  | cons f rest ih =>
    rw [addSample]
    split_ifs
    · have hlast : ([s] ++ rest.flatMap Family.samples).Perm (rest.flatMap Family.samples ++ [s]) :=
        List.perm_append_comm
      simpa [Family.samples] using hlast.append_left f.rest
    · simpa using ih.append_left f.samples

end

theorem families_concat (samples : List Sample) (s : Sample) :
    families (samples ++ [s]) = addSample s (families samples) := by
  rw [families, List.foldl_append]
  rfl

theorem grouped_families (samples : List Sample) : Grouped samples (families samples) := by
  induction samples using List.reverseRecOn with
  | nil => exact ⟨rfl, by simp [families]⟩
  | append_singleton samples s ih =>
    rw [families_concat]
    exact ih.concat s

/-- No sample is lost, and none is there twice. -/
theorem families_perm (samples : List Sample) :
    ((families samples).flatMap Family.samples).Perm samples := by
  induction samples using List.reverseRecOn with
  | nil => exact .refl _
  | append_singleton samples s ih =>
    rw [families_concat]
    exact (addSample_perm s _).trans (ih.append_right [s])

/-- The first sample of a family is the first one of its name. -/
theorem find?_of_mem_families {samples : List Sample} {f : Family} (hf : f ∈ families samples) :
    samples.find? (·.name = f.name) = some f.first := by
  rw [← List.head?_filter, ← (grouped_families samples).samples_eq f hf]
  rfl

theorem name_of_mem_family {samples : List Sample} {f : Family} (hf : f ∈ families samples)
    {s : Sample} (hs : s ∈ f.samples) : s.name = f.name := by
  rw [(grouped_families samples).samples_eq f hf] at hs
  exact of_decide_eq_true (List.mem_filter.mp hs).2

/-! ### Lines -/

inductive Line where
  | help (name description : String)
  | type (name : String) (kind : Config.MetricKind)
  | sample (s : Sample)
deriving DecidableEq

def Line.text : Line → String
  | help name description => helpLine name description
  | type name kind => typeLine name kind
  | sample s => s.line s.name

def Family.lines (f : Family) : List Line :=
  .help f.name f.first.description :: .type f.name f.first.kind :: f.samples.map .sample

def lines (samples : List Sample) : List Line := (families samples).flatMap Family.lines

theorem Family.text_eq {f : Family} (h : ∀ s ∈ f.samples, s.name = f.name) :
    f.text = String.join (f.lines.map Line.text) := by
  have hsamples : (f.samples.map Line.sample).map Line.text =
      f.samples.map (Sample.line f.name) := by
    rw [List.map_map]
    refine List.map_congr_left fun s hs ↦ ?_
    rw [← h s hs]
    rfl
  rw [Family.text, Family.lines, List.map_cons, List.map_cons, hsamples, String.join_cons,
    String.join_cons, String.append_assoc]
  rfl

theorem text_eq_join_lines (samples : List Sample) :
    text samples = String.join ((lines samples).map Line.text) := by
  have hfamilies : ∀ fs : List Family, (∀ f ∈ fs, ∀ s ∈ f.samples, s.name = f.name) →
      String.join (fs.map Family.text) = String.join ((fs.flatMap Family.lines).map Line.text) := by
    intro fs hfs
    induction fs with
    | nil => rfl
    | cons f rest ih =>
      rw [List.map_cons, String.join_cons, List.flatMap_cons, List.map_append, String.join_append,
        Family.text_eq (hfs f (by simp)), ih fun f hf ↦ hfs f (by simp [hf])]
  exact hfamilies _ fun f hf s hs ↦ name_of_mem_family hf hs

/-! ### Reading -/

/-- Reads lines from top to bottom: the samples, each with the name and the type that the last type
line above it gives. -/
def exposed : Option (String × Config.MetricKind) → List Line →
    List (Sample × Option (String × Config.MetricKind))
  | _, [] => []
  | above, .help _ _ :: rest => exposed above rest
  | _, .type name kind :: rest => exposed (some (name, kind)) rest
  | above, .sample s :: rest => (s, above) :: exposed above rest

theorem exposed_samples (above : Option (String × Config.MetricKind)) (samples : List Sample)
    (rest : List Line) :
    exposed above (samples.map .sample ++ rest) =
      samples.map (fun s ↦ (s, above)) ++ exposed above rest := by
  induction samples with
  | nil => rfl
  | cons s others ih =>
    rw [List.map_cons, List.map_cons, List.cons_append, List.cons_append, exposed, ih]

/-- Every sample stands below the header of its family. -/
theorem exposed_lines (samples : List Sample) :
    exposed none (lines samples) = (families samples).flatMap fun f ↦
      f.samples.map fun s ↦ (s, some (f.name, f.first.kind)) := by
  have hfamilies : ∀ (fs : List Family) (above : Option (String × Config.MetricKind)),
      exposed above (fs.flatMap Family.lines) = fs.flatMap fun f ↦
        f.samples.map fun s ↦ (s, some (f.name, f.first.kind)) := by
    intro fs
    induction fs with
    | nil => exact fun _ ↦ rfl
    | cons f rest ih =>
      intro above
      rw [List.flatMap_cons, List.flatMap_cons, Family.lines, List.cons_append, List.cons_append,
        exposed, exposed, exposed_samples, ih]
  exact hfamilies _ none

theorem exposed_perm (samples : List Sample) :
    ((exposed none (lines samples)).map Prod.fst).Perm samples := by
  have hfst : (exposed none (lines samples)).map Prod.fst =
      (families samples).flatMap Family.samples := by
    simp [exposed_lines, List.map_flatMap, Function.comp_def]
  rw [hfst]
  exact families_perm samples

/-- What stands above a sample is its name with the type of the first sample of that name. -/
theorem header_of_mem_exposed {samples : List Sample} {s : Sample}
    {above : Option (String × Config.MetricKind)} (h : (s, above) ∈ exposed none (lines samples)) :
    ∃ first, samples.find? (·.name = s.name) = some first ∧ above = some (s.name, first.kind) := by
  rw [exposed_lines] at h
  obtain ⟨f, hf, h⟩ := List.mem_flatMap.mp h
  obtain ⟨s', hs', hpair⟩ := List.mem_map.mp h
  obtain ⟨rfl, rfl⟩ := Prod.mk.inj hpair
  rw [name_of_mem_family hf hs']
  exact ⟨f.first, find?_of_mem_families hf, rfl⟩

end TelemetrySim.Exposition
