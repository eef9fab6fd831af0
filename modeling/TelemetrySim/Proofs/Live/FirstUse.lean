import TelemetrySim.Proofs.Live.Updates

/-!
Streams by first use. The sources of a generator are numbered by the order in which metrics first use
them, and each draws from the stream of its number (`Generator.Streamed`): one number at each tick of
its clock, which is what the values of its metrics are sent, and nothing besides. So later metrics
never disturb earlier ones (`Generator.streams_by_first_use`).
-/

set_option autoImplicit false
set_option relaxedAutoImplicit false

namespace TelemetrySim.Live

open Outcome

variable {ρ : Type} [Random.Rng ρ]

theorem exists_of_firstUses {hs : List Handles} {s : Nat} {id : SourceId}
    (h : (firstUses hs)[s]? = some id) : ∃ handles ∈ hs, handles.source = id := by
  have hid : id ∈ (hs.map (·.source)).eraseDups := List.mem_of_getElem? h
  exact List.mem_map.mp (List.mem_eraseDups.mp hid)

namespace Generator

section Streamed

variable {seeds : Random.Seeds} {config : Config} {g : Generator (Circuit ρ)}

/-- Streams are handed out in the order in which metrics first use the sources, one to each source,
and none of them while the generator is used. -/
structure Streamed (master : UInt64) (g : Generator (Circuit ρ)) : Prop where
  count : (firstUses g.metrics.toList).length = g.sourceCount
  consumed : ∀ actions, (g.run actions).circuit.seeds.streams = UInt64.ofNat g.sourceCount
  /-- The source that is first used as number `s` starts with the stream of that number. Whatever is
  done with the generator, it draws one number for each tick of its clock, and these numbers are what
  the values of its metrics are sent. -/
  stream : ∀ s id, (firstUses g.metrics.toList)[s]? = some id → ∃ src k,
    g.circuit.sources[id]? = some src ∧
      src.stream = Random.Rng.ofSeed (Random.childSeed master (UInt64.ofNat s)) ∧
      src.latest = none ∧ (∀ k', id ∈ g.circuit.listeners k' ↔ k' = k) ∧
      ∀ actions n, (g.ticks actions).count k = n →
        (g.run actions).circuit.sources[id]? = some { src with
          stream := Random.Rng.after src.min src.max n src.stream
          latest := (Random.Rng.numbers src.min src.max n src.stream).getLast? } ∧
        ∀ i h, g.handles? i = some h → h.source = id →
          g.updates h.value actions = Random.Rng.numbers src.min src.max n src.stream

theorem Connected.drew_first {ms : List Config.Metric} {clockOf : List ClockId}
    (hg : g.Connected ms clockOf) {i : Nat} {h : Handles} (hi : g.handles? i = some h)
    {src : Source ρ} (hsrc : g.circuit.sources[h.source]? = some src) (hnew : src.latest = none)
    (actions : List Action) {n : Nat} (hn : (g.ticks actions).count h.clock = n) :
    (g.run actions).circuit.sources[h.source]? = some { src with
        stream := Random.Rng.after src.min src.max n src.stream
        latest := (Random.Rng.numbers src.min src.max n src.stream).getLast? } ∧
      g.updates h.value actions = Random.Rng.numbers src.min src.max n src.stream := by
  obtain ⟨src', hsrc', hdrew⟩ := hg.drew_run hi hsrc actions
  refine ⟨?_, by rw [hdrew.sent_eq, hn, Source.numbers]⟩
  rw [hsrc', hdrew.eq_after, hn, Source.after, hnew, Option.or_none, Source.numbers]

theorem streamed_of_config (hfresh : seeds.streams = 0) (h : ofConfig seeds config = .ok g) :
    g.Streamed seeds.master := by
  obtain ⟨clockOf, hg⟩ := connected_of_config h
  have hseeded := seeded_of_config h
  have horder : firstUses g.metrics.toList = List.range g.sourceCount := by
    obtain ⟨⟨hs, b⟩, hmetrics, h⟩ := bind_eq_ok_iff.mp h
    obtain rfl := Except.ok.inj h
    have hbuilt : firstUses ([] ++ hs) = List.range b.sourceCount :=
      metrics_order (Builder.connected_empty seeds) (Circuit.seeded_empty seeds) rfl hmetrics
    exact hbuilt
  refine ⟨?_, fun actions ↦ ?_, fun s id hid ↦ ?_⟩
  · rw [horder, List.length_range]
  · have hstreams := Circuit.seeds_of_moves (run_moves actions g).1
    rw [hstreams, hseeded.seeds_eq, Random.Seeds.advanceBy_eq]
    show seeds.streams + _ = _
    rw [hfresh, UInt64.zero_add]
  · obtain ⟨handles, hmem, rfl⟩ := exists_of_firstUses hid
    obtain ⟨i, hi⟩ := List.mem_iff_getElem?.mp hmem
    rw [Array.getElem?_toList] at hi
    obtain ⟨m, -, hmetric⟩ := hg.handles hi
    obtain rfl : s = handles.source := by
      rw [horder] at hid
      obtain ⟨hlt, hget⟩ := List.getElem?_eq_some_iff.mp hid
      rwa [List.getElem_range] at hget
    obtain ⟨src, hsrc⟩ : ∃ src, g.circuit.sources[handles.source]? = some src :=
      ⟨_, Array.getElem?_eq_getElem (hg.wired.source_lt hmetric.clockOf_source)⟩
    obtain ⟨hstream, hlatest⟩ := hseeded.stream _ src hsrc
    rw [Random.Seeds.child_advanceBy hfresh] at hstream
    refine ⟨src, handles.clock, hsrc, hstream, hlatest, hg.mem_listeners_iff hi,
      fun actions n hn ↦ ⟨(hg.drew_first hi hsrc hlatest actions hn).1, fun j h hj hsame ↦ ?_⟩⟩
    -- Another metric with the source has its clock too.
    have hclock : h.clock = handles.clock := by
      rw [← hg.mem_listeners_iff hi, ← hsame]
      exact (hg.mem_listeners_iff hj h.clock).mpr rfl
    rw [← hsame] at hsrc
    rw [← hclock] at hn
    exact (hg.drew_first hj hsrc hlatest actions hn).2

end Streamed

/-- Sources draw from streams that are numbered by first use, so that metrics never disturb earlier
ones: a generator of the first metrics alone answers as the generator of all metrics does, whatever
is done with the others in between. -/
theorem streams_by_first_use {seed : Option UInt64} {fallback : UInt64} {config : Config}
    {g : Generator (Circuit ρ)} (h : ofConfig (.ofSetting seed fallback) config = .ok g) :
    g.Streamed (seed.getD fallback) ∧
      ∀ k, ∃ g' : Generator (Circuit ρ),
        ofMetrics (.ofSetting seed fallback) config.instances (config.metrics.take k) = .ok g' ∧
          ∀ actions, g'.transcript (actions.filter (·.concerns k)) =
            (g.transcript actions).filter fun p ↦ p.1.concerns k := by
  refine ⟨streamed_of_config rfl h, fun k ↦ ?_⟩
  obtain ⟨g', clockOf, clockOf', hbuilt, hembeds⟩ := embeds_take h k
  exact ⟨g', hbuilt, hembeds.transcript_eq⟩

end Generator

/-- The first two metrics of the demonstration are read alike without the third one. -/
theorem demo_streams : ∃ g g' : Generator,
    Generator.ofConfig (.ofSetting none 7) Demo.config = .ok g ∧ g.Streamed 7 ∧
    Generator.ofMetrics (.ofSetting none 7) Demo.config.instances (Demo.config.metrics.take 2) =
      .ok g' ∧
    g'.transcript [.tickAll, .read 0, .tick 1, .peek 1, .tickAll, .read 1] =
      (g.transcript [.tickAll, .read 2, .read 0, .tick 1, .stopValue 2, .peek 1, .peek 2, .tickAll,
        .read 1]).filter fun p ↦ p.1.concerns 2 := by
  obtain ⟨g, hg⟩ := demo_builds (.ofSetting none 7)
  obtain ⟨hstreamed, hfirst⟩ := Generator.streams_by_first_use hg
  obtain ⟨g', hg', htranscript⟩ := hfirst 2
  exact ⟨g, g', hg, hstreamed, hg', htranscript [.tickAll, .read 2, .read 0, .tick 1, .stopValue 2,
    .peek 1, .peek 2, .tickAll, .read 1]⟩

end TelemetrySim.Live
