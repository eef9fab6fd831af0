import TelemetrySim.Proofs.Appearance
import TelemetrySim.Proofs.Live.Run
import TelemetrySim.Proofs.Random

/-!
Streams of random words. What a builder does with its maker is said once (`Factory.Makes`): it has
one object after the other made, and counts the sources. So a circuit hands out one stream for each
source it makes, in that order (`Circuit.Seeded`), a metric takes a source that is there or the next
one, and the sources are numbered by their first use (`metrics_order`). Once a circuit has been built
no stream is handed out any more (`Circuit.seeds_of_moves`), and a source that draws takes the
numbers of its stream one after the other (`Source.after`).
-/

set_option autoImplicit false
set_option relaxedAutoImplicit false

namespace TelemetrySim

/-! ### Seeds -/

namespace Random.Seeds

theorem advanceBy_succ (n : Nat) (s : Seeds) : s.advanceBy (n + 1) = (s.advanceBy n).advance := rfl

theorem advanceBy_eq (n : Nat) (s : Seeds) :
    s.advanceBy n = { s with streams := s.streams + UInt64.ofNat n } := by
  induction n with
  | zero => simp [advanceBy, Nat.repeat]
  | succ n ih =>
    rw [advanceBy_succ, ih, advance]
    simp only [Seeds.mk.injEq, true_and]
    rw [UInt64.ofNat_add, UInt64.add_assoc]
    rfl

/-- Seeds that nothing has been taken from give stream `n` the seed of its number. -/
theorem child_advanceBy {s : Seeds} (h : s.streams = 0) (n : Nat) :
    (s.advanceBy n).child = childSeed s.master (UInt64.ofNat n) := by
  rw [advanceBy_eq, child, h, UInt64.zero_add]

end Random.Seeds

namespace Live

variable {ρ : Type}

open Outcome

/-! ### What a builder asks for -/

section Makes

variable {σ : Type} {F : Factory σ} {instances : Config.Instances} {b b' : Builder σ}

/-- A single object is made. The number counts the sources. -/
inductive Factory.Makes (F : Factory σ) : Nat × σ → Nat × σ → Prop
  | clock {n : Nat} {spec : ClockSpec} {o o' : σ} {id : ClockId}
      (h : F.clock spec o = .ok (id, o')) : Makes F (n, o) (n, o')
  | source {n : Nat} {spec : SourceSpec} {k : ClockId} {o o' : σ} {id : SourceId}
      (h : F.source spec k o = .ok (id, o')) : Makes F (n, o) (n + 1, o')
  | value {n : Nat} {spec : ValueSpec} {s : SourceId} {o o' : σ} {id : ValueId}
      (h : F.value spec s o = .ok (id, o')) : Makes F (n, o) (n, o')

/-- One object after the other is made. -/
abbrev Factory.MakesAll (F : Factory σ) : Nat × σ → Nat × σ → Prop :=
  Relation.ReflTransGen F.Makes

namespace Builder

/-- What a builder has had made: the number of sources, and the state of the maker. -/
def made (b : Builder σ) : Nat × σ := (b.sourceCount, b.objects)

theorem newClock_makes {c : Config.Clock} {id : ClockId} (h : b.newClock F c = .ok (id, b')) :
    F.MakesAll b.made b'.made := by
  obtain ⟨kind, objects, hmade, rfl⟩ := newClock_ok h
  exact .single (.clock hmade)

theorem newSource_makes {s : Config.Source} {k : ClockId} {id : SourceId}
    (h : b.newSource F s k = .ok (id, b')) : F.MakesAll b.made b'.made := by
  obtain ⟨kind, objects, hmade, rfl⟩ := newSource_ok h
  exact .single (.source hmade)

theorem clock_makes {c : Config.Clock} {marker : Option String} {id : ClockId}
    (h : b.clock F instances c marker = .ok (id, b')) : F.MakesAll b.made b'.made := by
  rcases clock_ok h with ⟨-, hnew⟩ | ⟨_, -, -, rfl⟩ | ⟨_, _, middle, -, -, -, hnew, rfl⟩
  · exact newClock_makes hnew
  · exact .refl
  · have hmade : F.MakesAll b.made middle.made := newClock_makes hnew
    exact hmade

theorem newFeed_makes {c : Config.Clock} {marker : Option String} {s : Config.Source} {feed : Feed}
    (h : b.newFeed F instances c marker s = .ok (feed, b')) : F.MakesAll b.made b'.made := by
  obtain ⟨middle, hclock, hsource⟩ := newFeed_ok h
  exact (clock_makes hclock).trans (newSource_makes hsource)

theorem feed_makes {v : Config.Value} {feed : Feed} (h : b.feed F instances v = .ok (feed, b')) :
    F.MakesAll b.made b'.made := by
  rcases feed_ok h with ⟨name, -, -, hshared⟩ | ⟨-, c, marker, -, hnew⟩
  · rcases sharedFeed_ok hshared with ⟨-, rfl⟩ | ⟨s, c, middle, -, -, -, hnew, rfl⟩
    · exact .refl
    · have hmade : F.MakesAll b.made middle.made := newFeed_makes hnew
      exact hmade
  · exact newFeed_makes hnew

theorem metric_makes {v : Config.Value} {handles : Handles}
    (h : b.metric F instances v = .ok (handles, b')) : F.MakesAll b.made b'.made := by
  obtain ⟨middle, spec, objects, hfeed, -, hvalue, rfl⟩ := metric_ok h
  exact (feed_makes hfeed).tail (.value hvalue)

/-- Building metrics has one object after the other made, and nothing else. -/
theorem metrics_makes {ms : List Config.Metric} {n : Nat} {hs : List Handles}
    (h : b.metrics F instances n ms = .ok (hs, b')) : F.MakesAll b.made b'.made := by
  induction ms generalizing n b hs with
  | nil =>
    obtain ⟨-, rfl⟩ := Prod.mk.inj (Except.ok.inj h)
    exact .refl
  | cons m rest ih =>
    obtain ⟨first, middle, others, hfirst, hothers, rfl⟩ := metrics_cons_ok h
    exact (metric_makes hfirst).trans (ih hothers)

end Builder

end Makes

/-! ### One stream for each source -/

variable [Random.Rng ρ]

namespace Circuit

/-- The circuit has made `n` sources, and each has the stream of its number and has drawn nothing
yet. -/
structure Seeded (seeds : Random.Seeds) (n : Nat) (c : Circuit ρ) : Prop where
  count : c.sources.size = n
  seeds_eq : c.seeds = seeds.advanceBy n
  stream : ∀ (s : SourceId) (src : Source ρ), c.sources[s]? = some src →
    src.stream = Random.Rng.ofSeed (seeds.advanceBy s).child ∧ src.latest = none

theorem seeded_empty (seeds : Random.Seeds) : Seeded seeds 0 ({ seeds := seeds } : Circuit ρ) :=
  ⟨rfl, rfl, by simp⟩

theorem Seeded.makes {seeds : Random.Seeds} {x y : Nat × Circuit ρ}
    (hx : Seeded seeds x.1 x.2) (h : factory.Makes x y) : Seeded seeds y.1 y.2 := by
  cases h with
  | clock h =>
    obtain ⟨-, rfl⟩ := addClock_ok h
    exact ⟨hx.count, hx.seeds_eq, hx.stream⟩
  | source h =>
    obtain ⟨-, rfl⟩ := addSource_ok h
    refine ⟨?_, congrArg Random.Seeds.advance hx.seeds_eq, fun s src hs ↦ ?_⟩
    · rw [Array.size_push, hx.count]
    · rw [Array.getElem?_push] at hs
      split_ifs at hs with hlast
      · obtain rfl := Option.some_inj.mp hs
        rw [hlast, hx.count, ← hx.seeds_eq]
        exact ⟨rfl, rfl⟩
      · exact hx.stream s src hs
  | @value n spec source o o' id h =>
    obtain ⟨-, rfl⟩ := Prod.mk.inj (Except.ok.inj h)
    refine ⟨?_, hx.seeds_eq, fun s src hs ↦ ?_⟩
    · exact Array.size_modify.trans hx.count
    · change (o.sources.modify source _)[s]? = some src at hs
      rw [Array.getElem?_modify] at hs
      split_ifs at hs
      · obtain ⟨old, hold, rfl⟩ := Option.map_eq_some_iff.mp hs
        exact hx.stream s old hold
      · exact hx.stream s src hs

theorem Seeded.makesAll {seeds : Random.Seeds} {x y : Nat × Circuit ρ}
    (hx : Seeded seeds x.1 x.2) (h : factory.MakesAll x y) : Seeded seeds y.1 y.2 := by
  induction h with
  | refl => exact hx
  | tail _ hmakes ih => exact ih.makes hmakes

end Circuit

theorem Generator.seeded_of_config {seeds : Random.Seeds} {config : Config}
    {g : Generator (Circuit ρ)} (h : Generator.ofConfig seeds config = .ok g) :
    g.circuit.Seeded seeds g.sourceCount := by
  obtain ⟨⟨hs, b⟩, hmetrics, h⟩ := bind_eq_ok_iff.mp h
  obtain rfl := Except.ok.inj h
  exact (Circuit.seeded_empty seeds).makesAll (Builder.metrics_makes hmetrics)

/-! ### Order of first use -/

section Order

variable {instances : Config.Instances} {b b' : Builder (Circuit ρ)} {clockOf : List ClockId}
  {sourceOf : List SourceId} {seeds : Random.Seeds}

/-- The sources in the order in which metrics first use them. -/
def firstUses (hs : List Handles) : List SourceId := (hs.map (·.source)).eraseDups

theorem newFeed_next (hb : b.objects.Seeded seeds b.sourceCount) {c : Config.Clock}
    {marker : Option String} {s : Config.Source} {feed : Feed}
    (h : b.newFeed Circuit.factory instances c marker s = .ok (feed, b')) :
    feed.source = b.sourceCount ∧ b'.sourceCount = b.sourceCount + 1 := by
  obtain ⟨middle, hclock, hsource⟩ := Builder.newFeed_ok h
  have hmiddle := Circuit.Seeded.makesAll (x := b.made) hb (Builder.clock_makes hclock)
  obtain ⟨-, hcount⟩ := Builder.clock_frame hclock
  obtain ⟨kind, objects, hadded, rfl⟩ := Builder.newSource_ok hsource
  obtain ⟨hid, -⟩ := Circuit.addSource_ok hadded
  rw [hid, ← hcount]
  exact ⟨hmiddle.count, rfl⟩

/-- The source of a value is one that is there, or the next one. -/
theorem feed_next (hb : b.Connected clockOf sourceOf) (hs : b.objects.Seeded seeds b.sourceCount)
    {v : Config.Value} {feed : Feed} (h : b.feed Circuit.factory instances v = .ok (feed, b')) :
    feed.source < b.sourceCount ∧ b'.sourceCount = b.sourceCount ∨
      feed.source = b.sourceCount ∧ b'.sourceCount = b.sourceCount + 1 := by
  rcases Builder.feed_ok h with ⟨name, -, -, hshared⟩ | ⟨-, c, marker, -, hnew⟩
  · rcases Builder.sharedFeed_ok hshared with ⟨hcached, rfl⟩ | ⟨s, c, middle, -, -, -, hnew, rfl⟩
    · have hlt := hb.wired.source_lt (hb.feeds name feed hcached)
      rw [hs.count] at hlt
      exact .inl ⟨hlt, rfl⟩
    · have hnext := newFeed_next hs hnew
      exact .inr hnext
  · exact .inr (newFeed_next hs hnew)

theorem metric_next (hb : b.Connected clockOf sourceOf)
    (hs : b.objects.Seeded seeds b.sourceCount) {v : Config.Value} {handles : Handles}
    (h : b.metric Circuit.factory instances v = .ok (handles, b')) :
    handles.source < b.sourceCount ∧ b'.sourceCount = b.sourceCount ∨
      handles.source = b.sourceCount ∧ b'.sourceCount = b.sourceCount + 1 := by
  obtain ⟨middle, spec, objects, hfeed, -, -, rfl⟩ := Builder.metric_ok h
  exact feed_next hb hs hfeed

/-- Another metric adds its source at the end, unless the source is in use. -/
theorem firstUses_concat {before : List Handles} {n : Nat} (h : firstUses before = List.range n)
    (handles : Handles) : firstUses (before ++ [handles]) =
      if handles.source < n then List.range n else List.range n ++ [handles.source] := by
  have hmem : handles.source ∈ before.map (·.source) ↔ handles.source < n := by
    rw [← List.mem_eraseDups, ← firstUses, h, List.mem_range]
  rw [firstUses, List.map_append, List.map_singleton, eraseDups_concat, if_congr hmem rfl rfl,
    ← firstUses, h]

/-- Metrics number the sources by first use. -/
theorem metrics_order {ms : List Config.Metric} {n : Nat} {before hs : List Handles}
    (hb : b.Connected clockOf sourceOf) (hseeded : b.objects.Seeded seeds b.sourceCount)
    (hbefore : firstUses before = List.range b.sourceCount)
    (h : b.metrics Circuit.factory instances n ms = .ok (hs, b')) :
    firstUses (before ++ hs) = List.range b'.sourceCount := by
  induction ms generalizing n b clockOf sourceOf before hs with
  | nil =>
    obtain ⟨rfl, rfl⟩ := Prod.mk.inj (Except.ok.inj h)
    rw [List.append_nil]
    exact hbefore
  | cons m rest ih =>
    obtain ⟨first, middle, others, hfirst, hothers, rfl⟩ := Builder.metrics_cons_ok h
    obtain ⟨clockOf', spec, -, -, hmiddle, -⟩ := metric_connected hb hfirst
    have hnext : firstUses (before ++ [first]) = List.range middle.sourceCount := by
      rw [firstUses_concat hbefore]
      rcases metric_next hb hseeded hfirst with ⟨hlt, hcount⟩ | ⟨heq, hcount⟩
      · rw [if_pos hlt, hcount]
      · rw [if_neg (Nat.not_lt.mpr (Nat.le_of_eq heq.symm)), heq, hcount, List.range_succ]
    rw [List.append_cons]
    exact ih hmiddle (Circuit.Seeded.makesAll (x := b.made) hseeded (Builder.metric_makes hfirst))
      hnext hothers

end Order

/-! ### Draws -/

namespace Source

/-- The next numbers that a source draws. -/
def numbers (n : Nat) (s : Source ρ) : List Int64 := Random.Rng.numbers s.min s.max n s.stream

/-- A source that has drawn its next numbers. -/
def after (n : Nat) (s : Source ρ) : Source ρ :=
  { s with
    stream := Random.Rng.after s.min s.max n s.stream
    latest := (s.numbers n).getLast?.or s.latest }

theorem after_zero (s : Source ρ) : s.after 0 = s := rfl

theorem after_one (s : Source ρ) : s.after 1 = s.draw.2 := rfl

theorem numbers_one (s : Source ρ) : s.numbers 1 = [s.draw.1] := rfl

theorem numbers_add (n m : Nat) (s : Source ρ) :
    s.numbers (n + m) = s.numbers n ++ (s.after n).numbers m :=
  Random.Rng.numbers_add n m s.stream

theorem after_add (n m : Nat) (s : Source ρ) : (s.after n).after m = s.after (n + m) := by
  have hstream : Random.Rng.after s.min s.max m (Random.Rng.after s.min s.max n s.stream) =
      Random.Rng.after s.min s.max (n + m) s.stream := Random.Rng.after_add n m s.stream
  have hlatest : ((s.after n).numbers m).getLast?.or ((s.numbers n).getLast?.or s.latest) =
      (s.numbers (n + m)).getLast?.or s.latest := by
    rw [numbers_add, List.getLast?_append, Option.or_assoc]
  simp only [after, Source.mk.injEq, and_true, true_and]
  exact ⟨hstream, hlatest⟩

end Source

namespace Circuit

theorem Move.seeds_eq {c c' : Circuit ρ} (h : Move c c') : c'.seeds = c.seeds := by
  cases h with
  | fire s =>
    cases hs : c.sources[s]? with
    | none => rw [fire_eq_self hs]
    | some src =>
      rw [fire_eq hs]
      exact (publish_objects _ _ _).1
  | read v => rfl
  | stop v => rfl
  | setStarted f k => rfl

/-- No stream is handed out once a circuit has been built. -/
theorem seeds_of_moves {c c' : Circuit ρ} (h : Moves c c') : c'.seeds = c.seeds := by
  induction h with
  | refl => rfl
  | tail _ hmove ih => rw [hmove.seeds_eq, ih]

end Circuit

end Live

end TelemetrySim
