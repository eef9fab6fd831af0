import TelemetrySim.Live.Generator
import TelemetrySim.Proofs.Outcome

/-!
What a step of building can do. A successful step of a builder, whatever its maker, either reuses an
object that is there or has exactly one object of each wanted sort made and records it. A circuit
that makes an object gives it the next number.
-/

set_option autoImplicit false
set_option relaxedAutoImplicit false

namespace TelemetrySim.Live

open Outcome

/-! ### Circuits -/

namespace Circuit

variable {ρ : Type} {c c' : Circuit ρ} {id : Nat}

theorem addClock_ok {interval : Duration} (h : c.addClock interval = .ok (id, c')) :
    id = c.clocks.size ∧ c' = { c with clocks := c.clocks.push { interval := interval } } := by
  unfold addClock at h
  split at h
  · simp at h
  · obtain ⟨rfl, rfl⟩ := Prod.mk.inj (Except.ok.inj h)
    exact ⟨rfl, rfl⟩

theorem addSource_ok [Random.Rng ρ] {min max : Int64} {clock : ClockId}
    (h : c.addSource min max clock = .ok (id, c')) : id = c.sources.size ∧ c' = { c with
      seeds := c.seeds.advance
      sources := c.sources.push
        { min := min, max := max, stream := Random.Rng.ofSeed c.seeds.child }
      clocks := c.clocks.modify clock fun k ↦
        { k with listeners := k.listeners ++ [c.sources.size] } } := by
  unfold addSource at h
  split at h
  · simp at h
  · obtain ⟨rfl, rfl⟩ := Prod.mk.inj (Except.ok.inj h)
    exact ⟨rfl, rfl⟩

end Circuit

/-! ### Builders -/

namespace Builder

variable {σ : Type} {F : Factory σ} {instances : Config.Instances} {b b' : Builder σ}

theorem newClock_ok {c : Config.Clock} {id : ClockId} (h : b.newClock F c = .ok (id, b')) :
    ∃ kind objects, F.clock ⟨kind, c.interval⟩ b.objects = .ok (id, objects) ∧
      b' = { b with objects := objects, clockList := b.clockList ++ [id] } := by
  obtain ⟨kind, -, h⟩ := bind_eq_ok_iff.mp h
  obtain ⟨⟨id', objects⟩, hmade, h⟩ := bind_eq_ok_iff.mp h
  obtain ⟨rfl, rfl⟩ := Prod.mk.inj (Except.ok.inj h)
  exact ⟨kind, objects, mapError_eq_ok_iff.mp hmade, rfl⟩

/-- A new clock leaves the tables of shared objects and the sources alone. -/
theorem newClock_frame {c : Config.Clock} {id : ClockId} (h : b.newClock F c = .ok (id, b')) :
    b'.clocks = b.clocks ∧ b'.feeds = b.feeds ∧ b'.sourceCount = b.sourceCount := by
  obtain ⟨kind, objects, -, rfl⟩ := newClock_ok h
  exact ⟨rfl, rfl, rfl⟩

theorem newSource_ok {s : Config.Source} {clock : ClockId} {id : SourceId}
    (h : b.newSource F s clock = .ok (id, b')) :
    ∃ kind objects, F.source ⟨kind, s.min, s.max⟩ clock b.objects = .ok (id, objects) ∧
      b' = { b with objects := objects, sourceCount := b.sourceCount + 1 } := by
  obtain ⟨kind, -, h⟩ := bind_eq_ok_iff.mp h
  obtain ⟨⟨id', objects⟩, hmade, h⟩ := bind_eq_ok_iff.mp h
  obtain ⟨rfl, rfl⟩ := Prod.mk.inj (Except.ok.inj h)
  exact ⟨kind, objects, mapError_eq_ok_iff.mp hmade, rfl⟩

/-- A clock without a marker is new; the clock of a marker is there already, or is new and recorded
under its name. -/
theorem clock_ok {c : Config.Clock} {marker : Option String} {id : ClockId}
    (h : b.clock F instances c marker = .ok (id, b')) :
    (marker = none ∧ b.newClock F c = .ok (id, b')) ∨
      (∃ name, marker = some name ∧ b.clocks.lookup name = some id ∧ b' = b) ∨
      ∃ name entry made, marker = some name ∧ b.clocks.lookup name = none ∧
        instances.clocks.lookup name = some entry ∧ b.newClock F entry = .ok (id, made) ∧
        b' = { made with clocks := made.clocks ++ [(name, id)] } := by
  cases marker with
  | none => exact .inl ⟨rfl, h⟩
  | some name =>
    refine .inr ?_
    cases hcached : b.clocks.lookup name with
    | some known =>
      simp only [clock, hcached] at h
      obtain ⟨rfl, rfl⟩ := Prod.mk.inj (Except.ok.inj h)
      exact .inl ⟨name, rfl, hcached, rfl⟩
    | none =>
      cases hentry : instances.clocks.lookup name with
      | none => simp [clock, hcached, hentry] at h
      | some entry =>
        simp only [clock, hcached, hentry] at h
        obtain ⟨⟨id', made⟩, hmade, h⟩ := bind_eq_ok_iff.mp h
        obtain ⟨rfl, rfl⟩ := Prod.mk.inj (Except.ok.inj h)
        exact .inr ⟨name, entry, made, rfl, hcached, hentry, hmade, rfl⟩

/-- A clock leaves the shared sources and the number of sources alone. -/
theorem clock_frame {c : Config.Clock} {marker : Option String} {id : ClockId}
    (h : b.clock F instances c marker = .ok (id, b')) :
    b'.feeds = b.feeds ∧ b'.sourceCount = b.sourceCount := by
  rcases clock_ok h with ⟨-, hnew⟩ | ⟨_, -, -, rfl⟩ | ⟨_, _, made, -, -, -, hnew, rfl⟩
  · exact (newClock_frame hnew).2
  · exact ⟨rfl, rfl⟩
  · exact (newClock_frame hnew).2

theorem newFeed_ok {c : Config.Clock} {marker : Option String} {s : Config.Source} {feed : Feed}
    (h : b.newFeed F instances c marker s = .ok (feed, b')) :
    ∃ made, b.clock F instances c marker = .ok (feed.clock, made) ∧
      made.newSource F s feed.clock = .ok (feed.source, b') := by
  obtain ⟨⟨clock, made⟩, hclock, h⟩ := bind_eq_ok_iff.mp h
  obtain ⟨⟨source, made'⟩, hsource, h⟩ := bind_eq_ok_iff.mp h
  obtain ⟨rfl, rfl⟩ := Prod.mk.inj (Except.ok.inj h)
  exact ⟨made, hclock, hsource⟩

theorem newFeed_frame {c : Config.Clock} {marker : Option String} {s : Config.Source} {feed : Feed}
    (h : b.newFeed F instances c marker s = .ok (feed, b')) : b'.feeds = b.feeds := by
  obtain ⟨made, hclock, hsource⟩ := newFeed_ok h
  obtain ⟨_, _, -, rfl⟩ := newSource_ok hsource
  exact (clock_frame hclock).1

/-- A shared source is there already, or is new and recorded under its name. -/
theorem sharedFeed_ok {name : String} {feed : Feed}
    (h : b.sharedFeed F instances name = .ok (feed, b')) :
    (b.feeds.lookup name = some feed ∧ b' = b) ∨
      ∃ s c made, b.feeds.lookup name = none ∧ instances.sources.lookup name = some s ∧
        s.clock = some c ∧ b.newFeed F instances c s.clockRef s = .ok (feed, made) ∧
        b' = { made with feeds := made.feeds ++ [(name, feed)] } := by
  cases hcached : b.feeds.lookup name with
  | some known =>
    simp only [sharedFeed, hcached] at h
    obtain ⟨rfl, rfl⟩ := Prod.mk.inj (Except.ok.inj h)
    exact .inl ⟨rfl, rfl⟩
  | none =>
    cases hentry : instances.sources.lookup name with
    | none => simp [sharedFeed, hcached, hentry] at h
    | some s =>
      cases hclock : s.clock with
      | none => simp [sharedFeed, hcached, hentry, hclock] at h
      | some c =>
        simp only [sharedFeed, hcached, hentry, hclock] at h
        obtain ⟨⟨feed', made⟩, hmade, h⟩ := bind_eq_ok_iff.mp h
        obtain ⟨rfl, rfl⟩ := Prod.mk.inj (Except.ok.inj h)
        exact .inr ⟨s, c, made, rfl, rfl, hclock, hmade, rfl⟩

/-- A value without a clock of its own runs on its shared source, if it has one; any other value
gets a new source. -/
theorem feed_ok {v : Config.Value} {feed : Feed} (h : b.feed F instances v = .ok (feed, b')) :
    (∃ name, v.sourceRef = some name ∧ v.clock = none ∧
        b.sharedFeed F instances name = .ok (feed, b')) ∨
      (v.sourceRef = none ∨ v.clock.isSome) ∧ ∃ c marker, v.effectiveClock = some (c, marker) ∧
        b.newFeed F instances c marker v.source = .ok (feed, b') := by
  by_cases hshared : ∃ name, v.sourceRef = some name ∧ v.clock = none
  · obtain ⟨name, href, hclock⟩ := hshared
    simp only [Builder.feed, href, hclock] at h
    exact .inl ⟨name, href, hclock, h⟩
  · refine .inr ⟨?_, ?_⟩
    · cases href : v.sourceRef with
      | none => exact .inl rfl
      | some name =>
        refine .inr (Option.isSome_iff_ne_none.mpr fun hclock ↦ hshared ⟨name, href, hclock⟩)
    · rw [Builder.feed] at h
      split at h
      · next name href hclock => exact absurd ⟨name, href, hclock⟩ hshared
      · cases hdriven : v.effectiveClock with
        | none => simp [hdriven] at h
        | some pair =>
          rw [hdriven] at h
          exact ⟨pair.1, pair.2, rfl, h⟩

theorem metric_ok {v : Config.Value} {handles : Handles}
    (h : b.metric F instances v = .ok (handles, b')) :
    ∃ made spec objects,
      b.feed F instances v = .ok (⟨handles.clock, handles.source⟩, made) ∧
      valueSpec v = .ok spec ∧
      F.value spec handles.source made.objects = .ok (handles.value, objects) ∧
      b' = { made with objects := objects } := by
  obtain ⟨⟨feed, made⟩, hfeed, h⟩ := bind_eq_ok_iff.mp h
  obtain ⟨spec, hspec, h⟩ := bind_eq_ok_iff.mp h
  obtain ⟨⟨value, objects⟩, hvalue, h⟩ := bind_eq_ok_iff.mp h
  obtain ⟨rfl, rfl⟩ := Prod.mk.inj (Except.ok.inj h)
  exact ⟨made, spec, objects, hfeed, mapError_eq_ok_iff.mp hspec, mapError_eq_ok_iff.mp hvalue, rfl⟩

theorem metrics_cons_ok {index : Nat} {m : Config.Metric} {rest : List Config.Metric}
    {hs : List Handles} (h : b.metrics F instances index (m :: rest) = .ok (hs, b')) :
    ∃ first made others, b.metric F instances m.value = .ok (first, made) ∧
      made.metrics F instances (index + 1) rest = .ok (others, b') ∧ hs = first :: others := by
  obtain ⟨⟨first, made⟩, hfirst, h⟩ := bind_eq_ok_iff.mp h
  obtain ⟨⟨others, made'⟩, hothers, h⟩ := bind_eq_ok_iff.mp h
  obtain ⟨rfl, rfl⟩ := Prod.mk.inj (Except.ok.inj h)
  exact ⟨first, made, others, mapError_eq_ok_iff.mp hfirst, hothers, rfl⟩

theorem metrics_cons {index : Nat} {m : Config.Metric} {rest : List Config.Metric}
    {first : Handles} {made : Builder σ} {others : List Handles}
    (hfirst : b.metric F instances m.value = .ok (first, made))
    (hothers : made.metrics F instances (index + 1) rest = .ok (others, b')) :
    b.metrics F instances index (m :: rest) = .ok (first :: others, b') :=
  bind_eq_ok_iff.mpr ⟨(first, made), mapError_eq_ok_iff.mpr hfirst,
    bind_eq_ok_iff.mpr ⟨(others, b'), hothers, rfl⟩⟩

/-- To build metrics is to build some of them first and then the others. -/
theorem metrics_append_ok {index : Nat} {ms rest : List Config.Metric} {hs : List Handles}
    (h : b.metrics F instances index (ms ++ rest) = .ok (hs, b')) :
    ∃ first made others, b.metrics F instances index ms = .ok (first, made) ∧
      made.metrics F instances (index + ms.length) rest = .ok (others, b') ∧
      hs = first ++ others := by
  induction ms generalizing index b hs with
  | nil => exact ⟨[], b, hs, rfl, h, rfl⟩
  | cons m ms ih =>
    obtain ⟨handles, next, others, hmetric, hothers, rfl⟩ := metrics_cons_ok h
    obtain ⟨first, made, last, hfirst, hlast, rfl⟩ := ih hothers
    refine ⟨handles :: first, made, last, metrics_cons hmetric hfirst, ?_, rfl⟩
    rw [List.length_cons, Nat.add_comm ms.length, ← Nat.add_assoc]
    exact hlast

end Builder

end TelemetrySim.Live
