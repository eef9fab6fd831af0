import TelemetrySim.Proofs.Resolution.Mistake

/-!
What an error is about. A mistake that is met on the way of a trail has a trail that ends with it
(`Mistake.met`): references only add frames at the front. So the last frame of an error is the
declaration that was being resolved, and the kind of that declaration can be read off the error
(`Failure.About`). The error for templates that are based on each other has no trail but says the
kind itself. A phase first claims the names of its kind, and only there do names clash
(`PhaseFails`).
-/

set_option autoImplicit false
set_option relaxedAutoImplicit false

namespace TelemetrySim

open Outcome

/-- A name is declared a second time. -/
def Problem.isClash : Problem → Bool
  | nameClash _ => true
  | _ => false

theorem isClash_of_isLocal {p : Problem} (h : p.isLocal) : p.isClash = false := by
  cases p with
  | nameClash c => simp [Problem.isLocal] at h
  | _ => rfl

/-- A mistake is met on the way: its trail only grows, and names do not clash there. -/
theorem Mistake.met {s : Scope} {e : Decl.Entry} {trail : Trail} {f : Failure}
    (h : Mistake s e trail f) : trail <:+ f.trail ∧ f.problem.isClash = false := by
  induction h with
  | own hp => exact ⟨List.suffix_refl _, isClash_of_isLocal hp⟩
  | missing hr hn => exact ⟨List.suffix_refl _, rfl⟩
  | inside hr hknown h ih => exact ⟨(List.suffix_append _ _).trans ih.1, ih.2⟩

/-! ### The kind of an error -/

/-- The labels of the frames that stand for declarations of the kind. -/
def EntityKind.components (k : EntityKind) : List String :=
  [k.label, (Entity.mk k .template).label, (Entity.mk k .shared).label]

theorem EntityKind.eq_of_mem_components {k k' : EntityKind} {c : String} (h : c ∈ k.components)
    (h' : c ∈ k'.components) : k = k' := by
  have hdisjoint : ∀ c ∈ k.components, c ∈ k'.components → k = k' := by
    cases k <;> cases k' <;> decide
  exact hdisjoint c h h'

theorem Entity.label_mem_components (e : Entity) : e.label ∈ e.kind.components := by
  obtain ⟨kind, origin⟩ := e
  cases origin with
  | template => simp [EntityKind.components]
  | shared => simp [EntityKind.components]

/-- The error is about a declaration of the kind: that is where its trail ends, or templates of the
kind are based on each other. -/
def Failure.About (e : Failure) (k : EntityKind) : Prop :=
  (e.trail = [] ∧ ∃ names, e.problem = .cycle k names) ∨
    ∃ f, e.trail.getLast? = some f ∧ f.component ∈ k.components

theorem Failure.About.unique {e : Failure} {k k' : EntityKind} (h : e.About k)
    (h' : e.About k') : k = k' := by
  rcases h with ⟨htrail, names, hcycle⟩ | ⟨f, hf, hmem⟩
  · rcases h' with ⟨-, names', hcycle'⟩ | ⟨f, hf, -⟩
    · rw [hcycle] at hcycle'
      exact (Problem.cycle.inj hcycle').1
    · simp [htrail] at hf
  · rcases h' with ⟨htrail, -⟩ | ⟨f', hf', hmem'⟩
    · simp [htrail] at hf
    · obtain rfl := Option.some_inj.mp (hf.symm.trans hf')
      exact EntityKind.eq_of_mem_components hmem hmem'

theorem Failure.about_of_suffix {e : Failure} {f : Frame} {k : EntityKind} (h : [f] <:+ e.trail)
    (hf : f.component ∈ k.components) : e.About k := by
  obtain ⟨front, hfront⟩ := h
  exact .inr ⟨f, by simp [← hfront], hf⟩

theorem Failure.not_about_of_suffix {e : Failure} {f : Frame} (h : [f] <:+ e.trail)
    (hf : ∀ k : EntityKind, f.component ∉ k.components) (k : EntityKind) : ¬ e.About k := by
  obtain ⟨front, hfront⟩ := h
  rintro (⟨htrail, -⟩ | ⟨f', hf', hmem⟩)
  · simp [htrail] at hfront
  · obtain rfl : f = f' := by simpa [← hfront] using hf'
    exact hf k hmem

/-- The error is about no declaration, but about what is written elsewhere. -/
def Failure.Outer (e : Failure) : Prop := (∀ k, ¬ e.About k) ∧ e.problem.isLocal

/-- A problem on a trail that no declaration starts is about none. -/
theorem outer_fails {α : Type} {f : Frame} (hf : ∀ k : EntityKind, f.component ∉ k.components)
    {p : Problem} (hp : p.isLocal) : Blames Failure.Outer (fails [f] p : Resolved α) :=
  .error ⟨Failure.not_about_of_suffix (List.suffix_refl _) hf, hp⟩

/-! ### Phases -/

namespace Resolution

variable {δ : Type} [Declared δ] {kind : EntityKind} {templates instances : List δ}
  {ns : Namespace}

/-- What goes wrong with the declarations of a kind is about the kind, and names do not clash. -/
theorem KindMistake.about {s : Scope} {entry : δ → Decl.Entry} {f : Failure}
    (h : KindMistake s kind entry templates instances f) :
    f.About kind ∧ f.problem.isClash = false := by
  cases h with
  | inside hd h =>
    exact ⟨Failure.about_of_suffix h.met.1 (Entity.label_mem_components _), h.met.2⟩
  | baseless hd hn =>
    exact ⟨Failure.about_of_suffix (List.suffix_refl _) (Entity.label_mem_components _), rfl⟩
  | cycle => exact ⟨.inl ⟨rfl, _, rfl⟩, rfl⟩

theorem MetricMistake.about {s : Scope} {templates : List Decl.MetricTemplate} {m : Decl.Metric}
    {f : Failure} (h : MetricMistake s templates m f) :
    f.About .metric ∧ f.problem.isClash = false := by
  have hmet : Scope.metricTrail m <:+ f.trail ∧ f.problem.isClash = false := by
    cases h with
    | own hp => exact ⟨List.suffix_refl _, isClash_of_isLocal hp⟩
    | missing hn => exact ⟨List.suffix_refl _, rfl⟩
    | inside hknown h => exact ⟨(List.suffix_append _ _).trans h.met.1, h.met.2⟩
  have hlabel : "metric" ∈ EntityKind.metric.components := by decide
  exact ⟨Failure.about_of_suffix hmet.1 hlabel, hmet.2⟩

theorem registerAll_about (e : Entity) (ds : List δ) (ns : Namespace) :
    Blames (fun f ↦ f.About e.kind) (registerAll e ds ns) := by
  refine Blames.foldlM (fun d _ ns ↦ ?_) ns
  exact Blames.mapError (E := fun _ ↦ True) (fun _ _ ↦ trivial) fun _ _ ↦
    Failure.about_of_suffix (List.suffix_refl _) e.label_mem_components

theorem register_about :
    Blames (fun f ↦ f.About kind) (register kind templates instances ns) :=
  (registerAll_about ⟨kind, .template⟩ templates ns).bind fun ns' _ ↦
    registerAll_about ⟨kind, .shared⟩ instances ns'

/-- The phase of a kind fails because names clash, or it has claimed the names and something else is
wrong with a declaration of the kind. -/
inductive PhaseFails (kind : EntityKind) (templates instances : List δ) (ns : Namespace)
    (f : Failure) : Prop
  | clash (h : register kind templates instances ns = .error f)
  | later {ns' : Namespace} (h : register kind templates instances ns = .ok ns')
      (habout : f.About kind) (hother : f.problem.isClash = false)

theorem PhaseFails.about {f : Failure} (h : PhaseFails kind templates instances ns f) :
    f.About kind := by
  cases h with
  | clash h => exact register_about f h
  | later _ habout _ => exact habout

theorem PhaseMistake.fails {E : Namespace → Failure → Prop} {f : Failure}
    (h : PhaseMistake kind templates instances ns E f)
    (hE : ∀ ns' f, E ns' f → f.About kind ∧ f.problem.isClash = false) :
    PhaseFails kind templates instances ns f := by
  cases h with
  | clash h => exact .clash h
  | later hclaimed h => exact .later hclaimed (hE _ f h).1 (hE _ f h).2

section Phases

variable {s : Scope} (hs : s.names.claimed.Nodup)

include hs

theorem clockPhase_fails {templates instances : List Decl.Clock} :
    Blames (PhaseFails .clock templates instances s.names) (clockPhase templates instances s) :=
  (clockPhase_mistake hs).mono fun _ hf ↦ hf.fails fun _ _ h ↦ h.about

theorem sourcePhase_fails {templates instances : List Decl.Source} :
    Blames (PhaseFails .source templates instances s.names)
      (sourcePhase templates instances s) :=
  (sourcePhase_mistake hs).mono fun _ hf ↦ hf.fails fun _ _ h ↦ h.about

theorem valuePhase_fails {templates instances : List Decl.Value} :
    Blames (PhaseFails .value templates instances s.names) (valuePhase templates instances s) :=
  (valuePhase_mistake hs).mono fun _ hf ↦ hf.fails fun _ _ h ↦ h.about

theorem metricPhase_fails {templates : List Decl.MetricTemplate} {ms : List Decl.Metric} :
    Blames (PhaseFails .metric templates [] s.names) (metricPhase templates ms s) := by
  refine (metricPhase_mistake hs).mono fun _ hf ↦ hf.fails fun _ _ h ↦ ?_
  rcases h with h | ⟨m, -, h⟩
  · exact h.about
  · exact h.about

end Phases

end Resolution

/-! ### Export and settings -/

namespace Config

theorem Export.fails_outer {α : Type} {exporter : String} {p : Problem} (hp : p.isLocal) :
    Blames Failure.Outer (fails [⟨"export", exporter⟩] p : Resolved α) := by
  have houter : ∀ k : EntityKind, "export" ∉ k.components := by
    intro k
    cases k <;> decide
  exact outer_fails houter hp

theorem Export.resolvePort_outer {port : Option Int64} {default : UInt16} {exporter : String} :
    Blames Failure.Outer (Export.resolvePort port default [⟨"export", exporter⟩]) := by
  cases port with
  | none => exact .ok _
  | some p => exact .ite (.ok _) (fails_outer rfl)

theorem Export.resolvePull_outer (d : Decl.Prometheus) :
    Blames Failure.Outer (Export.resolvePull d) :=
  Export.resolvePort_outer.bind fun _ _ ↦ .ite (.ok _) (fails_outer rfl)

theorem Export.resolvePush_outer (d : Decl.Otel) : Blames Failure.Outer (Export.resolvePush d) := by
  have htransport : Blames Failure.Outer (Export.resolveTransport d.transport) := by
    rw [Export.resolveTransport.eq_def]
    split
    · exact .ok _
    · exact .ok _
    · exact .ok _
    · exact fails_outer rfl
  refine htransport.bind fun _ _ ↦ .ite (fails_outer rfl) ?_
  exact Export.resolvePort_outer.bind fun _ _ ↦ .ite (fails_outer rfl) (.ok _)

/-- An error about the export is about no declaration. -/
theorem Export.resolve_outer (d : Decl.Export) : Blames Failure.Outer (Export.resolve d) := by
  rw [Export.resolve]
  split
  · exact fails_outer rfl
  · exact (Export.resolvePull_outer _).map
  · exact (Export.resolvePush_outer _).map
  · exact .ok _

/-- An error about the settings is about no declaration. -/
theorem Settings.resolve_outer (d : Decl.Settings) :
    Blames Failure.Outer (Settings.resolve d) := by
  have hformat : Blames Failure.Outer (Settings.resolveFormat d.internalMetrics.format) := by
    rw [Settings.resolveFormat.eq_def]
    split
    · exact .ok _
    · exact .ok _
    · exact .ok _
    · exact outer_fails (fun k ↦ by cases k <;> decide) rfl
  exact hformat.bind fun _ _ ↦ .ok _

end Config

end TelemetrySim
