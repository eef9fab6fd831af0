import TelemetrySim.Proofs.Live.Updates

/-!
Every metric runs on its own configuration, also where its objects are shared. What is kept under a
name was built from the entry of that name (`Backed`); markers are sound, so this entry is the part
of the configuration that the metric has itself. What is built is as configured from then on, since
neither more objects nor any use of the generator changes an interval or a range
(`Generator.runs_of_compile`).
-/

set_option autoImplicit false
set_option relaxedAutoImplicit false

namespace TelemetrySim.Live

variable {ρ : Type}

open Outcome

/-! ### What is built -/

namespace Circuit

variable {c c' : Circuit ρ} {min max : Int64} {interval : Duration}

theorem Paced.of_agrees {k : ClockId} (h : c.Paced interval k) (hagrees : c.Agrees c') :
    c'.Paced interval k := by
  obtain ⟨clock, hclock, hinterval⟩ := Option.map_eq_some_iff.mp h
  obtain ⟨clock', hclock', hpace⟩ := hagrees.clocks.exists_getElem? hclock
  have hsame : clock'.interval = clock.interval := congrArg Prod.fst hpace
  rw [Paced, hclock', Option.map_some, hsame, hinterval]

theorem Ranged.of_agrees {s : SourceId} (h : c.Ranged min max s) (hagrees : c.Agrees c') :
    c'.Ranged min max s := by
  obtain ⟨src, hsrc, hrange⟩ := Option.map_eq_some_iff.mp h
  obtain ⟨src', hsrc', hsupply⟩ := hagrees.sources.exists_getElem? hsrc
  have hsame : (src'.min, src'.max) = (src.min, src.max) :=
    congrArg (fun p : Int64 × Int64 × ρ × Option Int64 ↦ (p.1, p.2.1)) hsupply
  rw [Ranged, hsrc', Option.map_some, hsame, hrange]

theorem paced_addClock {k : ClockId} (h : c.addClock interval = .ok (k, c')) :
    c'.Paced interval k := by
  obtain ⟨rfl, rfl⟩ := addClock_ok h
  rw [Paced, Array.getElem?_push_size]
  rfl

theorem ranged_addSource [Random.Rng ρ] {k : ClockId} {s : SourceId}
    (h : c.addSource min max k = .ok (s, c')) : c'.Ranged min max s := by
  obtain ⟨rfl, rfl⟩ := addSource_ok h
  rw [Ranged, Array.getElem?_push_size]
  rfl

/-- A clock and a source are as configured. -/
structure Runs (clock : Config.Clock) (source : Config.Source) (feed : Feed) (c : Circuit ρ) :
    Prop where
  paced : c.Paced clock.interval feed.clock
  ranged : c.Ranged source.min source.max feed.source

theorem Runs.of_agrees {clock : Config.Clock} {source : Config.Source} {feed : Feed}
    (h : c.Runs clock source feed) (hagrees : c.Agrees c') : c'.Runs clock source feed :=
  ⟨h.paced.of_agrees hagrees, h.ranged.of_agrees hagrees⟩

end Circuit

section Building

variable {instances : Config.Instances} {b b' : Builder (Circuit ρ)}

/-- Every shared object that is there is as the entry of its name says. -/
structure Backed (instances : Config.Instances) (b : Builder (Circuit ρ)) : Prop where
  clocks : ∀ name id, b.clocks.lookup name = some id →
    ∃ c, instances.clocks.lookup name = some c ∧ b.objects.Paced c.interval id
  feeds : ∀ name feed, b.feeds.lookup name = some feed →
    ∃ s c, instances.sources.lookup name = some s ∧ s.clock = some c ∧ b.objects.Runs c s feed

variable [Random.Rng ρ]

/-- More objects leave the shared ones as they are. -/
theorem Backed.of_makesAll (hb : Backed instances b)
    (hmakes : Circuit.factory.MakesAll b.made b'.made) (hclocks : b'.clocks = b.clocks)
    (hfeeds : b'.feeds = b.feeds) : Backed instances b' := by
  have hagrees : b.objects.Agrees b'.objects := Circuit.agrees_of_makesAll hmakes
  constructor
  · intro name id hname
    rw [hclocks] at hname
    obtain ⟨c, hc, hpaced⟩ := hb.clocks name id hname
    exact ⟨c, hc, hpaced.of_agrees hagrees⟩
  · intro name feed hname
    rw [hfeeds] at hname
    obtain ⟨s, c, hs, hc, hruns⟩ := hb.feeds name feed hname
    exact ⟨s, c, hs, hc, hruns.of_agrees hagrees⟩

theorem newClock_backed (hb : Backed instances b) {c : Config.Clock} {id : ClockId}
    (h : b.newClock Circuit.factory c = .ok (id, b')) :
    b'.objects.Paced c.interval id ∧ Backed instances b' := by
  obtain ⟨hclocks, hfeeds, -⟩ := Builder.newClock_frame h
  refine ⟨?_, hb.of_makesAll (Builder.newClock_makes h) hclocks hfeeds⟩
  obtain ⟨kind, objects, hmade, rfl⟩ := Builder.newClock_ok h
  exact Circuit.paced_addClock hmade

theorem clock_backed (hb : Backed instances b) {c : Config.Clock} {marker : Option String}
    (hmarker : ∀ name, marker = some name → instances.clocks.lookup name = some c) {id : ClockId}
    (h : b.clock Circuit.factory instances c marker = .ok (id, b')) :
    b'.objects.Paced c.interval id ∧ Backed instances b' := by
  rcases Builder.clock_ok h with ⟨-, hnew⟩ | ⟨name, hname, hcached, rfl⟩ |
    ⟨name, entry, made, hname, -, hentry, hnew, rfl⟩
  · exact newClock_backed hb hnew
  · obtain ⟨entry, hentry, hpaced⟩ := hb.clocks name id hcached
    obtain rfl := Option.some_inj.mp (hentry.symm.trans (hmarker name hname))
    exact ⟨hpaced, hb⟩
  · obtain rfl := Option.some_inj.mp (hentry.symm.trans (hmarker name hname))
    obtain ⟨hpaced, hmade⟩ := newClock_backed hb hnew
    refine ⟨hpaced, fun other k hother ↦ ?_, hmade.feeds⟩
    rcases Assoc.lookup_concat_eq_some_iff.mp hother with hold | ⟨-, rfl, rfl⟩
    · exact hmade.clocks other k hold
    · exact ⟨entry, hentry, hpaced⟩

theorem newFeed_backed (hb : Backed instances b) {c : Config.Clock} {marker : Option String}
    (hmarker : ∀ name, marker = some name → instances.clocks.lookup name = some c)
    {s : Config.Source} {feed : Feed}
    (h : b.newFeed Circuit.factory instances c marker s = .ok (feed, b')) :
    b'.objects.Runs c s feed ∧ Backed instances b' := by
  obtain ⟨made, hclock, hsource⟩ := Builder.newFeed_ok h
  obtain ⟨hpaced, hmade⟩ := clock_backed hb hmarker hclock
  have hmakes := Builder.newSource_makes hsource
  obtain ⟨kind, objects, hadded, rfl⟩ := Builder.newSource_ok hsource
  exact ⟨⟨hpaced.of_agrees (Circuit.agrees_of_makesAll hmakes), Circuit.ranged_addSource hadded⟩,
    hmade.of_makesAll hmakes rfl rfl⟩

/-- The shared source of a name is as its entry says, whether it is there or new. -/
theorem sharedFeed_backed (hb : Backed instances b) {name : String} {s : Config.Source}
    (hentry : instances.sources.lookup name = some s) (hmarked : s.Marked instances.clocks)
    {feed : Feed} (h : b.sharedFeed Circuit.factory instances name = .ok (feed, b')) :
    ∃ c, s.clock = some c ∧ b'.objects.Runs c s feed ∧ Backed instances b' := by
  rcases Builder.sharedFeed_ok h with ⟨hcached, rfl⟩ |
    ⟨s', c, made, -, hentry', hclock, hnew, rfl⟩
  · obtain ⟨s', c, hentry', hclock, hruns⟩ := hb.feeds name feed hcached
    obtain rfl := Option.some_inj.mp (hentry'.symm.trans hentry)
    exact ⟨c, hclock, hruns, hb⟩
  · obtain rfl := Option.some_inj.mp (hentry'.symm.trans hentry)
    have hmarker : ∀ n, s'.clockRef = some n → instances.clocks.lookup n = some c := by
      intro n hn
      obtain ⟨k, hk, hsame⟩ := hmarked n hn
      rw [hk, ← hsame, hclock]
    obtain ⟨hruns, hmade⟩ := newFeed_backed hb hmarker hnew
    refine ⟨c, hclock, hruns, hmade.clocks, fun other known hother ↦ ?_⟩
    rcases Assoc.lookup_concat_eq_some_iff.mp hother with hold | ⟨-, rfl, rfl⟩
    · exact hmade.feeds other known hold
    · exact ⟨s', c, hentry, hclock, hruns⟩

theorem feed_backed (hb : Backed instances b) {v : Config.Value}
    (hmarked : v.Marked instances.clocks instances.sources) {feed : Feed}
    (h : b.feed Circuit.factory instances v = .ok (feed, b')) :
    ∃ c marker, v.effectiveClock = some (c, marker) ∧ b'.objects.Runs c v.source feed ∧
      Backed instances b' := by
  rcases Builder.feed_ok h with ⟨name, href, hown, hshared⟩ | ⟨-, c, marker, hclock, hnew⟩
  · obtain ⟨c, hclock, hruns, hb'⟩ :=
      sharedFeed_backed hb (hmarked.source name href) hmarked.sourceClock hshared
    have hdriven : v.effectiveClock = some (c, v.source.clockRef) :=
      Config.Value.effectiveClock_eq_some_iff.mpr (.inr ⟨hown, hclock, rfl⟩)
    exact ⟨c, _, hdriven, hruns, hb'⟩
  · obtain ⟨hruns, hb'⟩ := newFeed_backed hb (hmarked.effectiveClock hclock) hnew
    exact ⟨c, marker, hclock, hruns, hb'⟩

theorem metric_backed (hb : Backed instances b) {v : Config.Value}
    (hmarked : v.Marked instances.clocks instances.sources) {handles : Handles}
    (h : b.metric Circuit.factory instances v = .ok (handles, b')) :
    ∃ c marker, v.effectiveClock = some (c, marker) ∧
      b'.objects.Runs c v.source ⟨handles.clock, handles.source⟩ ∧ Backed instances b' := by
  obtain ⟨made, spec, objects, hfeed, -, hvalue, rfl⟩ := Builder.metric_ok h
  obtain ⟨c, marker, hclock, hruns, hmade⟩ := feed_backed hb hmarked hfeed
  have hmakes : Circuit.factory.MakesAll made.made (made.sourceCount, objects) :=
    .single (.value hvalue)
  have hbacked : Backed instances { made with objects := objects } :=
    hmade.of_makesAll hmakes rfl rfl
  exact ⟨c, marker, hclock, hruns.of_agrees (Circuit.agrees_of_makesAll hmakes), hbacked⟩

/-- Of metrics built one after the other, each runs as configured in the end. -/
theorem metrics_run {ms : List Config.Metric} (hb : Backed instances b)
    (hmarked : ∀ m ∈ ms, m.value.Marked instances.clocks instances.sources) {n : Nat}
    {hs : List Handles} (h : b.metrics Circuit.factory instances n ms = .ok (hs, b')) :
    ∀ (i : Nat) m handles, ms[i]? = some m → hs[i]? = some handles →
      ∃ c marker, m.value.effectiveClock = some (c, marker) ∧
        b'.objects.Runs c m.value.source ⟨handles.clock, handles.source⟩ := by
  induction ms generalizing n b hs with
  | nil => simp
  | cons m rest ih =>
    obtain ⟨first, made, others, hfirst, hothers, rfl⟩ := Builder.metrics_cons_ok h
    obtain ⟨c, marker, hclock, hruns, hmade⟩ := metric_backed hb (hmarked m (by simp)) hfirst
    have hagrees := Circuit.agrees_of_makesAll (Builder.metrics_makes hothers)
    intro i m' handles hm hhandles
    cases i with
    | zero =>
      obtain rfl : m = m' := by simpa using hm
      obtain rfl : first = handles := by simpa using hhandles
      exact ⟨c, marker, hclock, hruns.of_agrees hagrees⟩
    | succ i =>
      have hrest := fun m hm ↦ hmarked m (List.mem_cons_of_mem _ hm)
      exact ih hmade hrest hothers i m' handles (by simpa using hm) (by simpa using hhandles)

end Building

/-! ### New values -/

/-- No value has been changed since it was made. -/
def Circuit.Fresh (c : Circuit ρ) : Prop :=
  ∀ (i : ValueId) (v : Value), c.values[i]? = some v → v = Value.new v.transforms v.reset

variable [Random.Rng ρ]

theorem Circuit.Fresh.makes {x y : Nat × Circuit ρ} (hx : x.2.Fresh) (h : factory.Makes x y) :
    y.2.Fresh := by
  cases h with
  | clock h =>
    obtain ⟨-, rfl⟩ := addClock_ok h
    exact hx
  | source h =>
    obtain ⟨-, rfl⟩ := addSource_ok h
    exact hx
  | @value n spec source c c' id h =>
    obtain ⟨-, rfl⟩ := Prod.mk.inj (Except.ok.inj h)
    intro i v hv
    change (c.values.push _)[i]? = some v at hv
    rw [Array.getElem?_push] at hv
    split_ifs at hv
    · obtain rfl := Option.some_inj.mp hv
      rfl
    · exact hx i v hv

theorem Circuit.Fresh.makesAll {x y : Nat × Circuit ρ} (hx : x.2.Fresh)
    (h : factory.MakesAll x y) : y.2.Fresh := by
  induction h with
  | refl => exact hx
  | tail _ hmakes ih => exact ih.makes hmakes

/-! ### Runs -/

namespace Generator

variable {d : Decl.Document} {config : Config} {seeds : Random.Seeds} {g : Generator (Circuit ρ)}

theorem fresh_of_config (h : Generator.ofConfig seeds config = .ok g) : g.circuit.Fresh := by
  obtain ⟨⟨hs, b⟩, hmetrics, h⟩ := bind_eq_ok_iff.mp h
  obtain rfl := Except.ok.inj h
  have hmakes := Builder.metrics_makes hmetrics
  have hempty : Circuit.Fresh ({ seeds := seeds } : Circuit ρ) := by
    intro i v hv
    simp at hv
  exact Circuit.Fresh.makesAll hempty hmakes

theorem runs_of_config (hd : d.compile = .ok config) (h : Generator.ofConfig seeds config = .ok g)
    {i : Nat} {m : Config.Metric} {handles : Handles} (hm : config.metrics[i]? = some m)
    (hi : g.handles? i = some handles) :
    ∃ c marker, m.value.effectiveClock = some (c, marker) ∧
      g.circuit.Runs c m.value.source ⟨handles.clock, handles.source⟩ := by
  obtain ⟨⟨hs, b⟩, hmetrics, h⟩ := bind_eq_ok_iff.mp h
  obtain rfl := Except.ok.inj h
  have hempty : Backed config.instances { objects := ({ seeds := seeds } : Circuit ρ) } :=
    ⟨by simp, by simp⟩
  rw [handles?, List.getElem?_toArray] at hi
  exact metrics_run hempty (Resolution.marked.of_compile hd).metrics hmetrics i m handles hm hi

/-- The metric reads what it took in last: 0 before the first tick of its clock, and a number of the
range from then on, unless it was stopped before that tick. -/
structure Shows (g : Generator (Circuit ρ)) (i : Nat) (h : Handles) (source : Config.Source)
    (actions : List Action) : Prop where
  reading : (g.run actions).peek? i = some ((g.taken h.value actions).getLastD 0)
  taken_sublist : (g.taken h.value actions).Sublist (g.updates h.value actions)
  taken_eq : ∀ w, (g.run actions).value? i = some w → w.stopped = false →
    g.taken h.value actions = g.updates h.value actions
  running : (∀ a ∈ actions, a ≠ .stop ∧ a ≠ .stopValue i) →
    ∃ w, (g.run actions).value? i = some w ∧ w.stopped = false
  before_tick : h.clock ∉ g.ticks actions → (g.run actions).peek? i = some 0
  after_tick : ∀ before rest, actions = before ++ rest → h.clock ∈ g.ticks before →
    ∀ w, (g.run before).value? i = some w → w.stopped = false →
      ∃ x, (g.run actions).peek? i = some x ∧ source.min ≤ x ∧ x ≤ source.max

/-- Throughout a run, the objects of a metric are as the configuration of its value says. -/
structure RunsAs (g : Generator (Circuit ρ)) (i : Nat) (h : Handles) (v : Config.Value)
    (actions : List Action) : Prop where
  paced : ∃ c marker, v.effectiveClock = some (c, marker) ∧
    (g.run actions).circuit.Paced c.interval h.clock
  min_le_max : v.source.min ≤ v.source.max
  ranged : (g.run actions).circuit.Ranged v.source.min v.source.max h.source
  /-- Each tick of the clock sends the value one number of the range, and nothing else does. -/
  updates : Answers (fun x ↦ v.source.min ≤ x ∧ x ≤ v.source.max) h.clock
    (g.updates h.value actions) (g.ticks actions)
  /-- Besides taking its reading and stopping it, an action only sends numbers to the value. -/
  driven : ∀ (a : Action) w, (g.run actions).value? i = some w →
    (a.apply (g.run actions)).value? i =
        some ((a.sent h.value (g.run actions)).foldl Value.update w) ∨
      a.sent h.value (g.run actions) = [] ∧
        ((a.apply (g.run actions)).value? i = some w.afterRead ∨
          (a = .stop ∨ a = .stopValue i) ∧ (a.apply (g.run actions)).value? i = some w.stop)
  shows : v.transforms = [] → Builder.resetPolicy v.reset = .ok .never →
    g.Shows i h v.source actions

theorem plain_of_valueSpec {v : Config.Value} {w : Value}
    (h : Builder.valueSpec v = .ok w.spec) (htransforms : v.transforms = [])
    (hreset : Builder.resetPolicy v.reset = .ok .never) : w.Plain := by
  have hspec : Builder.valueSpec v = .ok ⟨[], .never⟩ := by
    rw [Builder.valueSpec, htransforms, hreset]
    rfl
  exact (Except.ok.inj (hspec.symm.trans h)).symm

section Shows

variable {ms : List Config.Metric} {clockOf : List ClockId} {i : Nat} {h : Handles} {v : Value}
  {source : Config.Source}

theorem Connected.reading (hg : g.Connected ms clockOf) (hv : g.value? i = some v)
    (hplain : v.Plain) (hnew : v = Value.new v.transforms v.reset) (actions : List Action) :
    (g.run actions).peek? i = some ((g.taken i actions).getLastD 0) := by
  have hzero : v.current = 0 := by
    have hreset : v.reset = .never := congrArg ValueSpec.reset hplain
    rw [hnew, hreset]
    rfl
  obtain ⟨w, hw, hcurrent⟩ := hg.run_plain hv hplain actions
  rw [(hg.run actions).peek?_eq, ← (hg.run actions).value?_eq, hw, ← hzero, ← hcurrent]
  rfl

theorem Connected.shows (hg : g.Connected ms clockOf) (hi : g.handles? i = some h)
    (hv : g.value? i = some v) (hplain : v.Plain) (hnew : v = Value.new v.transforms v.reset)
    (hupdates : ∀ actions, Answers (fun x ↦ source.min ≤ x ∧ x ≤ source.max) h.clock
      (g.updates h.value actions) (g.ticks actions)) (actions : List Action) :
    g.Shows i h source actions := by
  obtain ⟨m, -, hmetric⟩ := hg.handles hi
  obtain rfl : h.value = i := hmetric.value_eq
  have hreading := hg.reading hv hplain hnew
  have hrunning : v.stopped = false := by
    rw [hnew]
    rfl
  refine ⟨hreading actions, taken_sublist h.value actions g,
    fun w hw hstill ↦ hg.taken_eq_updates hw hstill, hg.running_run hv hrunning,
    fun hticks ↦ ?_, ?_⟩
  · have hnone : (g.updates h.value actions).length = 0 := by
      rw [(hupdates actions).length_eq, List.count_eq_zero_of_not_mem hticks]
    have hsublist := taken_sublist h.value actions g
    rw [List.length_eq_zero_iff.mp hnone] at hsublist
    rw [hreading, List.sublist_nil.mp hsublist]
    rfl
  · rintro before rest rfl hticks w hw hstill
    -- The number of the first tick need not be the last one, but it shows that there is one.
    have hsome : 0 < (g.taken h.value before).length := by
      rw [hg.taken_eq_updates hw hstill, (hupdates before).length_eq]
      exact List.count_pos_iff.mpr hticks
    have hne : g.taken h.value (before ++ rest) ≠ [] := by
      rw [taken, noted_append]
      exact List.append_ne_nil_of_left_ne_nil (List.ne_nil_of_length_pos hsome) _
    refine ⟨_, hreading _, ?_⟩
    rw [List.getLastD_eq_getLast?, List.getLast?_eq_some_getLast hne]
    have hlast := (taken_sublist h.value (before ++ rest) g).subset (List.getLast_mem hne)
    exact (hupdates _).wanted _ hlast

end Shows

/-- Every metric of a compiled configuration runs on exactly its own configuration, whatever is
done with the generator, also when its objects are shared. -/
theorem runs_of_compile (hd : d.compile = .ok config)
    (h : Generator.ofConfig seeds config = .ok g) {i : Nat} {m : Config.Metric}
    (hm : config.metrics[i]? = some m) :
    ∃ handles, g.handles? i = some handles ∧
      ∀ actions, g.RunsAs i handles m.value actions := by
  obtain ⟨clockOf, hg⟩ := connected_of_config h
  obtain ⟨hlt, -⟩ := List.getElem?_eq_some_iff.mp hm
  rw [← hg.size] at hlt
  have hi : g.handles? i = some g.metrics[i] := Array.getElem?_eq_getElem hlt
  refine ⟨_, hi, fun actions ↦ ?_⟩
  obtain ⟨c, marker, hclock, hruns⟩ := runs_of_config hd h hm hi
  have hsame := (run_sameBuild actions g).blueprint
  have hle : m.value.source.min ≤ m.value.source.max :=
    ((Resolution.wellFormed.of_compile hd).metrics m (List.mem_of_getElem? hm)).source.min_le_max
  have hupdates := hg.updates_answer hi hruns.ranged hle
  obtain ⟨hvalue, -, v, hv, hspec⟩ := hg.metric i m _ hm hi
  refine ⟨⟨c, marker, hclock, hruns.paced.of_blueprint hsame⟩, hle,
    hruns.ranged.of_blueprint hsame, hupdates actions, fun a w hw ↦ ?_,
    fun htransforms hreset ↦ ?_⟩
  · rw [hvalue]
    exact (hg.run actions).value?_apply hw a
  · have hplain := plain_of_valueSpec hspec htransforms hreset
    exact hg.shows hi ((hg.value?_eq i).trans hv) hplain (fresh_of_config h i v hv) hupdates actions

end Generator

/-! ### A demonstration -/

/-- The second metric of the demonstration, whose source is shared, reads 0 until its clock ticks,
and from then on what its dice show, also once it is stopped. -/
theorem demo_runs :
    Demo.document.compile = .ok Demo.config ∧ ∃ (g : Generator) (handles : Handles),
      Generator.ofConfig (.ofSetting none 7) Demo.config = .ok g ∧ g.handles? 1 = some handles ∧
        (∀ actions, g.RunsAs 1 handles { source := Demo.dice, sourceRef := some "dice" } actions) ∧
        (g.run [.read 0, .peek 1]).peek? 1 = some 0 ∧
        ∃ x, (g.run [.read 0, .tick handles.clock, .stopValue 1, .tickAll]).peek? 1 = some x ∧
          1 ≤ x ∧ x ≤ 6 := by
  obtain ⟨g, hg⟩ := demo_builds (.ofSetting none 7)
  obtain ⟨handles, hi, hruns⟩ := Generator.runs_of_compile Demo.compile_document hg (i := 1) rfl
  have hbefore := ((hruns [.read 0, .peek 1]).shows rfl rfl).before_tick List.not_mem_nil
  obtain ⟨w, hw, hrunning⟩ :=
    ((hruns [.read 0, .tick handles.clock]).shows rfl rfl).running (by simp)
  have hafter := ((hruns [.read 0, .tick handles.clock, .stopValue 1, .tickAll]).shows rfl
    rfl).after_tick _ _ rfl (List.mem_singleton_self _) w hw hrunning
  exact ⟨Demo.compile_document, g, handles, hg, hi, hruns, hbefore, hafter⟩

end TelemetrySim.Live
