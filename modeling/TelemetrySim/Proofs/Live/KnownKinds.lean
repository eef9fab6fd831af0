import TelemetrySim.Live.Generator
import TelemetrySim.Proofs.Resolution.Marker
import TelemetrySim.Proofs.Resolution.WellFormed

/-!
When a compiled configuration can be built. Resolving has seen to it that every marker leads to a
shared entity, every value has a clock, no interval is zero and no range is empty, so all that is
left to go wrong is a kind that nothing is known by. Building then stops at the first metric that
has one.
-/

set_option autoImplicit false
set_option relaxedAutoImplicit false

namespace TelemetrySim.Live

variable {ρ : Type}

open Outcome

/-- Every kind that a value needs is known. -/
structure KnownKinds (v : Config.Value) : Prop where
  clock : ∃ c marker, v.effectiveClock = some (c, marker) ∧ c.kind = "periodic"
  source : v.source.kind = "random_int"
  transforms : ∀ t ∈ v.transforms, t.kind = "accumulate"
  reset : ∀ r, v.reset = some r → r.kind = "" ∨ r.kind = "on_read"

/-- The fault is that something is not known by its kind. -/
def Fault.IsUnknown : Fault → Prop
  | unknownKind _ _ => True
  | unnamedTransform => True
  | _ => False

/-- The problem is that something is not known by its kind. -/
def BuildProblem.IsUnknown (p : BuildProblem) : Prop := ∃ f, p = .fault f ∧ f.IsUnknown

/-! ### Kinds -/

section Kinds

theorem decides_clockKind (s : String) :
    Decides Fault.IsUnknown (s = "periodic") (fun _ ↦ True) (ClockKind.named s) := by
  by_cases h : s = "periodic"
  · simpa [ClockKind.named, h] using Decides.ok h trivial
  · simpa [ClockKind.named, h] using Decides.error h trivial

theorem decides_sourceKind (s : String) :
    Decides Fault.IsUnknown (s = "random_int") (fun _ ↦ True) (SourceKind.named s) := by
  by_cases h : s = "random_int"
  · simpa [SourceKind.named, h] using Decides.ok h trivial
  · simpa [SourceKind.named, h] using Decides.error h trivial

theorem decides_transform (s : String) :
    Decides Fault.IsUnknown (s = "accumulate") (fun _ ↦ True) (Transform.named s) := by
  by_cases h : s = "accumulate"
  · simpa [Transform.named, h] using Decides.ok h trivial
  · by_cases hempty : s = ""
    · simpa [Transform.named, h, hempty] using Decides.error h trivial
    · simpa [Transform.named, h, hempty] using Decides.error h trivial

theorem decides_transforms (ts : List Config.Transform) :
    Decides Fault.IsUnknown (∀ t ∈ ts, t.kind = "accumulate") (fun _ ↦ True)
      (ts.mapM fun t ↦ Transform.named t.kind) := by
  induction ts with
  | nil => exact .ok (by simp) trivial
  | cons t rest ih =>
    rw [List.mapM_cons]
    have hcons : Decides Fault.IsUnknown
        (t.kind = "accumulate" ∧ ∀ t ∈ rest, t.kind = "accumulate") (fun _ ↦ True)
        (do return (← Transform.named t.kind) :: (← rest.mapM fun t ↦ Transform.named t.kind)) :=
      (decides_transform t.kind).bind fun a _ _ ↦ ih.bind_ok fun as _ _ ↦ ⟨a :: as, rfl, trivial⟩
    exact hcons.congr (by simp)

theorem decides_reset (r : Option Config.Reset) :
    Decides Fault.IsUnknown (∀ r', r = some r' → r'.kind = "" ∨ r'.kind = "on_read")
      (fun _ ↦ True) (Builder.resetPolicy r) := by
  cases r with
  | none => exact .ok (by simp) trivial
  | some r =>
    by_cases hempty : r.kind = ""
    · simpa [Builder.resetPolicy, ResetPolicy.named, hempty] using Decides.ok trivial trivial
    · by_cases hread : r.kind = "on_read"
      · simpa [Builder.resetPolicy, ResetPolicy.named, hread] using Decides.ok trivial trivial
      · have hfault : Builder.resetPolicy (some r) = .error (.unknownKind .reset r.kind) := by
          simp [Builder.resetPolicy, ResetPolicy.named, hempty, hread]
        rw [hfault]
        exact .error (by simp [hempty, hread]) trivial

theorem decides_valueSpec (v : Config.Value) :
    Decides Fault.IsUnknown
      ((∀ t ∈ v.transforms, t.kind = "accumulate") ∧
        ∀ r, v.reset = some r → r.kind = "" ∨ r.kind = "on_read")
      (fun _ ↦ True) (Builder.valueSpec v) :=
  (decides_transforms v.transforms).bind fun transforms _ _ ↦
    (decides_reset v.reset).bind_ok fun reset _ _ ↦ ⟨⟨transforms, reset⟩, rfl, trivial⟩

theorem decides_orFault {α : Type} {p : Prop} {Q : α → Prop} {x : Except Fault α}
    (h : Decides Fault.IsUnknown p Q x) : Decides BuildProblem.IsUnknown p Q (orFault x) :=
  h.mapError fun f _ hf ↦ ⟨f, rfl, hf⟩

end Kinds

/-! ### Building -/

section Building

variable {instances : Config.Instances} {b : Builder (Circuit ρ)}

/-- Every shared object that is there was built from an entry of a known kind. -/
structure Cached (instances : Config.Instances) (b : Builder (Circuit ρ)) : Prop where
  clocks : ∀ name id, b.clocks.lookup name = some id →
    ∃ c, instances.clocks.lookup name = some c ∧ c.kind = "periodic"
  feeds : ∀ name feed, b.feeds.lookup name = some feed →
    ∃ s c, instances.sources.lookup name = some s ∧ s.clock = some c ∧ c.kind = "periodic" ∧
      s.kind = "random_int"

/-- An attempt that succeeds exactly on a condition, and otherwise meets a kind that is unknown. -/
abbrev BuildsIf {α : Type} (instances : Config.Instances) (p : Prop)
    (x : Attempt (α × Builder (Circuit ρ))) : Prop :=
  Decides BuildProblem.IsUnknown p (fun r ↦ Cached instances r.2) x

variable [Random.Rng ρ]

theorem newClock_decides (hb : Cached instances b) {c : Config.Clock} (hc : c.WellFormed) :
    Decides BuildProblem.IsUnknown (c.kind = "periodic")
      (fun r ↦ Cached instances r.2 ∧ r.2.clocks = b.clocks ∧ r.2.feeds = b.feeds)
      (b.newClock Circuit.factory c) := by
  refine (decides_orFault (decides_clockKind c.kind)).bind_ok fun kind _ _ ↦ ?_
  have hmade : Circuit.factory.clock ⟨kind, c.interval⟩ b.objects =
      .ok (b.objects.clocks.size,
        { b.objects with clocks := b.objects.clocks.push { interval := c.interval } }) := by
    cases kind
    simp [Circuit.factory, Circuit.addClock, hc.interval_ne]
  rw [hmade]
  exact ⟨_, rfl, ⟨hb.clocks, hb.feeds⟩, rfl, rfl⟩

theorem newSource_decides (hb : Cached instances b) {s : Config.Source} (hs : s.WellFormed)
    (clock : ClockId) :
    BuildsIf instances (s.kind = "random_int") (b.newSource Circuit.factory s clock) := by
  refine (decides_orFault (decides_sourceKind s.kind)).bind_ok fun kind _ _ ↦ ?_
  have hbounds : ¬ s.max < s.min := Int64.not_lt.mpr hs.min_le_max
  have hmade : ∃ c, Circuit.factory.source ⟨kind, s.min, s.max⟩ clock b.objects =
      .ok (b.objects.sources.size, c) := by
    cases kind
    simp [Circuit.factory, Circuit.addSource, hbounds]
  obtain ⟨c, hc⟩ := hmade
  rw [hc]
  exact ⟨_, rfl, hb.clocks, hb.feeds⟩

theorem clock_decides (hb : Cached instances b) {c : Config.Clock} (hc : c.WellFormed)
    {marker : Option String}
    (hmarker : ∀ name, marker = some name → instances.clocks.lookup name = some c) :
    Decides BuildProblem.IsUnknown (c.kind = "periodic")
      (fun r ↦ Cached instances r.2 ∧ r.2.feeds = b.feeds)
      (b.clock Circuit.factory instances c marker) := by
  cases marker with
  | none => exact (newClock_decides hb hc).mono fun _ h ↦ ⟨h.1, h.2.2⟩
  | some name =>
    have hentry : instances.clocks.lookup name = some c := hmarker name rfl
    cases hcached : b.clocks.lookup name with
    | some id =>
      obtain ⟨c', hc', hkind⟩ := hb.clocks name id hcached
      obtain rfl : c' = c := Option.some_inj.mp (hc'.symm.trans hentry)
      simp only [Builder.clock, hcached]
      exact .ok hkind ⟨hb, rfl⟩
    | none =>
      simp only [Builder.clock, hcached, hentry]
      refine (newClock_decides hb hc).bind_ok fun r hkind hr ↦ ⟨_, rfl, ⟨?_, hr.1.feeds⟩, hr.2.2⟩
      intro other id hother
      rcases Assoc.lookup_concat_eq_some_iff.mp hother with hold | ⟨-, rfl, -⟩
      · exact hr.1.clocks other id hold
      · exact ⟨c, hentry, hkind⟩

theorem newFeed_decides (hb : Cached instances b) {c : Config.Clock} (hc : c.WellFormed)
    {marker : Option String}
    (hmarker : ∀ name, marker = some name → instances.clocks.lookup name = some c)
    {s : Config.Source} (hs : s.WellFormed) :
    BuildsIf instances (c.kind = "periodic" ∧ s.kind = "random_int")
      (b.newFeed Circuit.factory instances c marker s) :=
  (clock_decides hb hc hmarker).bind fun r _ hr ↦
    (newSource_decides hr.1 hs r.1).bind_ok fun _ _ hb' ↦ ⟨_, rfl, hb'⟩

theorem sharedFeed_decides (hb : Cached instances b) {name : String} {s : Config.Source}
    (hentry : instances.sources.lookup name = some s) (hs : s.WellFormed)
    (hmarked : s.Marked instances.clocks) {c : Config.Clock} (hc : s.clock = some c) :
    BuildsIf instances (c.kind = "periodic" ∧ s.kind = "random_int")
      (b.sharedFeed Circuit.factory instances name) := by
  have hmarker : ∀ n, s.clockRef = some n → instances.clocks.lookup n = some c := by
    intro n hn
    obtain ⟨k, hk, hsame⟩ := hmarked n hn
    rw [hk, ← hsame, hc]
  cases hcached : b.feeds.lookup name with
  | some feed =>
    obtain ⟨s', c', hs', hc', hkinds⟩ := hb.feeds name feed hcached
    obtain rfl : s' = s := Option.some_inj.mp (hs'.symm.trans hentry)
    obtain rfl : c' = c := Option.some_inj.mp (hc'.symm.trans hc)
    simp only [Builder.sharedFeed, hcached]
    exact .ok hkinds hb
  | none =>
    simp only [Builder.sharedFeed, hcached, hentry, hc]
    refine (newFeed_decides hb (hs.clock c hc) hmarker hs).bind_ok
      fun r hkinds hr ↦ ⟨_, rfl, hr.clocks, ?_⟩
    intro other feed hother
    rcases Assoc.lookup_concat_eq_some_iff.mp hother with hold | ⟨-, rfl, -⟩
    · exact hr.feeds other feed hold
    · exact ⟨s, c, hentry, hc, hkinds⟩

theorem feed_decides (hb : Cached instances b) {v : Config.Value} (hv : v.WellFormed)
    (hmarked : v.Marked instances.clocks instances.sources) {c : Config.Clock}
    {marker : Option String} (hc : v.effectiveClock = some (c, marker)) :
    BuildsIf instances (c.kind = "periodic" ∧ v.source.kind = "random_int")
      (b.feed Circuit.factory instances v) := by
  have hown : BuildsIf instances (c.kind = "periodic" ∧ v.source.kind = "random_int")
      (b.newFeed Circuit.factory instances c marker v.source) :=
    newFeed_decides hb (hv.effectiveClock hc) (hmarked.effectiveClock hc) hv.source
  cases hshared : v.sourceRef with
  | none => simpa only [Builder.feed, hshared, hc] using hown
  | some name =>
    cases hclock : v.clock with
    | some own => simpa only [Builder.feed, hshared, hclock, hc] using hown
    | none =>
      have hsource : v.source.clock = some c := by
        rcases Config.Value.effectiveClock_eq_some_iff.mp hc with ⟨hsome, -⟩ | ⟨-, hsource, -⟩
        · rw [hclock] at hsome
          simp at hsome
        · exact hsource
      simp only [Builder.feed, hshared, hclock]
      exact sharedFeed_decides hb (hmarked.source name hshared) hv.source hmarked.sourceClock hsource

/-- Building the objects of a metric succeeds exactly if it has known kinds only. -/
theorem metric_decides (hb : Cached instances b) {v : Config.Value} (hv : v.WellFormed)
    (hmarked : v.Marked instances.clocks instances.sources) :
    BuildsIf instances (KnownKinds v) (b.metric Circuit.factory instances v) := by
  obtain ⟨⟨c, marker⟩, hc⟩ := Option.isSome_iff_exists.mp hv.driven
  refine Decides.congr (p := _) ((feed_decides hb hv hmarked hc).bind fun r _ hr ↦
    (decides_orFault (decides_valueSpec v)).bind_ok fun spec _ _ ↦ ⟨_, rfl, hr.clocks, hr.feeds⟩) ?_
  constructor
  · rintro ⟨⟨hclock, hsource⟩, htransforms, hreset⟩
    exact ⟨⟨c, marker, hc, hclock⟩, hsource, htransforms, hreset⟩
  · rintro ⟨⟨c', marker', hc', hclock⟩, hsource, htransforms, hreset⟩
    obtain ⟨rfl, rfl⟩ : c = c' ∧ marker = marker' := by simpa [hc] using hc'
    exact ⟨⟨hclock, hsource⟩, htransforms, hreset⟩

/-! ### All metrics -/

/-- The metric is the first one that has a kind that is not known. -/
structure FirstUnknown (ms : List Config.Metric) (index : Nat) (m : Config.Metric) : Prop where
  at_index : ms[index]? = some m
  unknown : ¬ KnownKinds m.value
  known_before : ∀ j m', j < index → ms[j]? = some m' → KnownKinds m'.value

/-- The error blames the first metric with an unknown kind, the metrics being numbered from a given
number on. -/
def BuildError.BlamesFirst (ms : List Config.Metric) (start : Nat) (e : BuildError) : Prop :=
  ∃ i m, e.index = start + i ∧ FirstUnknown ms i m ∧ e.metric = m.displayName ∧ e.problem.IsUnknown

theorem FirstUnknown.cons {m m' : Config.Metric} {rest : List Config.Metric} {i : Nat}
    (hm : KnownKinds m.value) (h : FirstUnknown rest i m') :
    FirstUnknown (m :: rest) (i + 1) m' where
  at_index := by simpa using h.at_index
  unknown := h.unknown
  known_before := by
    intro j other hj hother
    cases j with
    | zero =>
      obtain rfl : m = other := by simpa using hother
      exact hm
    | succ j => exact h.known_before j other (by omega) (by simpa using hother)

theorem metrics_decides {ms : List Config.Metric} (hb : Cached instances b)
    (hms : ∀ m ∈ ms, m.value.WellFormed ∧ m.value.Marked instances.clocks instances.sources)
    (start : Nat) :
    Decides (BuildError.BlamesFirst ms start) (∀ m ∈ ms, KnownKinds m.value) (fun _ ↦ True)
      (b.metrics Circuit.factory instances start ms) := by
  induction ms generalizing b start with
  | nil => exact .ok (by simp) trivial
  | cons m rest ih =>
    obtain ⟨hwell, hmarked⟩ := hms m (by simp)
    have hrest := fun m' hm' ↦ hms m' (List.mem_cons_of_mem m hm')
    have hfirst : Decides (BuildError.BlamesFirst (m :: rest) start) (KnownKinds m.value)
        (fun r ↦ Cached instances r.2)
        ((b.metric Circuit.factory instances m.value).mapError
          fun p ↦ ⟨start, m.displayName, p⟩) :=
      (metric_decides hb hwell hmarked).mapError fun p hunknown hp ↦
        ⟨0, m, rfl, ⟨rfl, hunknown, by simp⟩, rfl, hp⟩
    refine (hfirst.bind (q := ∀ m' ∈ rest, KnownKinds m'.value) fun r hknown hr ↦ ?_).congr (by simp)
    refine Decides.bind_ok (Decides.mono_error (ih hr hrest (start + 1)) ?_)
      fun _ _ _ ↦ ⟨_, rfl, trivial⟩
    rintro e ⟨i, m', hindex, hunknown, hrest⟩
    exact ⟨i + 1, m', by omega, hunknown.cons hknown, hrest⟩

end Building

theorem Generator.ofConfig_decides [Random.Rng ρ] {d : Decl.Document} {config : Config}
    (h : d.compile = .ok config) (seeds : Random.Seeds) :
    Decides (BuildError.BlamesFirst config.metrics 0) (∀ m ∈ config.metrics, KnownKinds m.value)
      (fun _ : Generator (Circuit ρ) ↦ True) (Generator.ofConfig seeds config) := by
  have hmarked := Resolution.marked.of_compile h
  have hwell := Resolution.wellFormed.of_compile h
  have hempty : Cached config.instances { objects := ({ seeds := seeds } : Circuit ρ) } :=
    ⟨by simp, by simp⟩
  have hmetrics := metrics_decides hempty
    (fun m hm ↦ ⟨hwell.metrics m hm, hmarked.metrics m hm⟩) 0
  exact hmetrics.bind_ok fun _ _ _ ↦ ⟨_, rfl, trivial⟩

/-- A compiled configuration can be built exactly if all of its kinds are known. Otherwise the error
is about the first metric that has an unknown kind, and is about nothing but that kind. -/
theorem Generator.builds_iff_knownKinds [Random.Rng ρ] {d : Decl.Document} {config : Config}
    (h : d.compile = .ok config) (seeds : Random.Seeds) :
    ((∃ g : Generator (Circuit ρ), Generator.ofConfig seeds config = .ok g) ↔
        ∀ m ∈ config.metrics, KnownKinds m.value) ∧
      ∀ e, (Generator.ofConfig seeds config : Except _ (Generator (Circuit ρ))) = .error e →
        ∃ m, FirstUnknown config.metrics e.index m ∧ e.metric = m.displayName ∧
          e.problem.IsUnknown := by
  have hbuilt := Generator.ofConfig_decides (ρ := ρ) h seeds
  refine ⟨hbuilt.ok_iff, fun e he ↦ ?_⟩
  rw [he] at hbuilt
  cases hbuilt with
  | error _ hblames =>
    obtain ⟨i, m, hindex, hunknown, hname, hproblem⟩ := hblames
    rw [Nat.zero_add] at hindex
    rw [← hindex] at hunknown
    exact ⟨m, hunknown, hname, hproblem⟩

/-- Whether the demonstration can be built is a matter of its kinds. -/
theorem demo_builds_iff :
    Demo.document.compile = .ok Demo.config ∧
      ((∃ g : Generator, Generator.ofConfig (.ofSetting none 7) Demo.config = .ok g) ↔
        ∀ m ∈ Demo.config.metrics, KnownKinds m.value) ∧
      ∀ e, (Generator.ofConfig (.ofSetting none 7) Demo.config : Except _ Generator) = .error e →
        ∃ m, FirstUnknown Demo.config.metrics e.index m ∧ e.metric = m.displayName ∧
          e.problem.IsUnknown :=
  ⟨Demo.compile_document,
    Generator.builds_iff_knownKinds Demo.compile_document (.ofSetting none 7)⟩

/-- All kinds of the demonstration are known. -/
theorem demo_builds (seeds : Random.Seeds) :
    ∃ g : Generator, Generator.ofConfig seeds Demo.config = .ok g := by
  refine (Generator.ofConfig_decides Demo.compile_document seeds).ok_iff.mpr fun m hm ↦ ?_
  simp only [Demo.config, List.mem_cons, List.not_mem_nil, or_false] at hm
  obtain rfl | rfl | rfl | rfl := hm
  · exact ⟨⟨_, _, rfl, rfl⟩, rfl, by decide, by decide⟩
  · exact ⟨⟨_, _, rfl, rfl⟩, rfl, by decide, by decide⟩
  · exact ⟨⟨_, _, rfl, rfl⟩, rfl, by decide, by decide⟩
  · exact ⟨⟨_, _, rfl, rfl⟩, rfl, by decide, by decide⟩

end TelemetrySim.Live
