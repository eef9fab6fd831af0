import Mathlib.Data.List.Nodup
import TelemetrySim.Proofs.Live.Build

/-!
How a circuit is wired up while it is built. Two lists tell for each source the clock that it was
made for, and for each value the source. The lists of listeners say the same the other way round
(`Circuit.Wired`): nothing listens twice, and nothing listens to what it was not made for. Every
object that is added keeps this, so it holds of the circuit of any generator that was built
(`Generator.Connected`).
-/

set_option autoImplicit false
set_option relaxedAutoImplicit false

namespace TelemetrySim.Live

variable {ρ : Type}

open Outcome

/-! ### Listeners -/

/-- The listeners are those that were made for the object `k`, each of them once. -/
structure Listens (madeFor : List Nat) (k : Nat) (listeners : List Nat) : Prop where
  nodup : listeners.Nodup
  mem_iff : ∀ i, i ∈ listeners ↔ madeFor[i]? = some k

theorem Listens.nil (k : Nat) : Listens [] k [] := ⟨List.nodup_nil, by simp⟩

/-- One more object is made, which listens to what it is made for. -/
theorem Listens.concat {madeFor listeners : List Nat} {k : Nat} (h : Listens madeFor k listeners)
    (k' : Nat) : Listens (madeFor ++ [k']) k
      (if k' = k then listeners ++ [madeFor.length] else listeners) := by
  have hnew : madeFor.length ∉ listeners := by
    intro hmem
    have hlast := (h.mem_iff madeFor.length).mp hmem
    simp at hlast
  have hget : ∀ i, (madeFor ++ [k'])[i]? = some k ↔
      madeFor[i]? = some k ∨ i = madeFor.length ∧ k' = k := by
    intro i
    rcases Nat.lt_trichotomy i madeFor.length with hlt | rfl | hgt
    · rw [List.getElem?_append_left hlt]
      exact ⟨.inl, fun h ↦ h.resolve_right fun h ↦ absurd h.1 (Nat.ne_of_lt hlt)⟩
    · simp
    · have hend : (madeFor ++ [k']).length ≤ i := by
        rw [List.length_append, List.length_singleton]
        omega
      rw [List.getElem?_eq_none hend, List.getElem?_eq_none (Nat.le_of_lt hgt)]
      simp [Nat.ne_of_gt hgt]
  split_ifs with hk
  · refine ⟨List.nodup_append'.mpr ⟨h.nodup, List.nodup_singleton _, ?_⟩, fun i ↦ ?_⟩
    · exact List.disjoint_singleton.mpr hnew
    · rw [List.mem_append, List.mem_singleton, h.mem_iff, hget]
      simp [hk]
  · refine ⟨h.nodup, fun i ↦ ?_⟩
    rw [h.mem_iff, hget]
    simp [hk]

namespace Circuit

/-- The sources that listen to a clock. -/
def listeners (c : Circuit ρ) (clock : ClockId) : List SourceId :=
  (c.clocks[clock]?.map Clock.listeners).getD []

/-- The values that listen to a source. -/
def audience (c : Circuit ρ) (source : SourceId) : List ValueId :=
  (c.sources[source]?.map Source.listeners).getD []

/-- Every source listens to the clock it was made for and every value to the source it was made for,
and to nothing else. -/
structure Wired (c : Circuit ρ) (clockOf : List ClockId) (sourceOf : List SourceId) : Prop where
  sources_size : c.sources.size = clockOf.length
  values_size : c.values.size = sourceOf.length
  listens : ∀ k, Listens clockOf k (c.listeners k)
  attends : ∀ s, Listens sourceOf s (c.audience s)

variable {c : Circuit ρ} {clockOf : List ClockId} {sourceOf : List SourceId}

theorem wired_empty (seeds : Random.Seeds) : Wired ({ seeds := seeds } : Circuit ρ) [] [] where
  sources_size := rfl
  values_size := rfl
  listens k := by simpa [listeners] using Listens.nil k
  attends s := by simpa [audience] using Listens.nil s

theorem Wired.source_lt (hc : c.Wired clockOf sourceOf) {s : SourceId} {k : ClockId}
    (hs : clockOf[s]? = some k) : s < c.sources.size := by
  obtain ⟨hlt, -⟩ := List.getElem?_eq_some_iff.mp hs
  rw [hc.sources_size]
  exact hlt

theorem Wired.clock_lt (hc : c.Wired clockOf sourceOf) {s : SourceId} {k : ClockId}
    (hs : clockOf[s]? = some k) : k < c.clocks.size := by
  have hmem : s ∈ c.listeners k := ((hc.listens k).mem_iff s).mpr hs
  by_contra hout
  rw [listeners, Array.getElem?_eq_none (Nat.not_lt.mp hout)] at hmem
  simp at hmem

theorem Wired.attends_of (hc : c.Wired clockOf sourceOf) {s : SourceId} {src : Source ρ}
    (hs : c.sources[s]? = some src) : Listens sourceOf s src.listeners := by
  have haudience := hc.attends s
  rwa [audience, hs, Option.map_some, Option.getD_some] at haudience

/-- A circuit tells for each source the clock that it was made for. -/
theorem Wired.clockOf_unique (hc : c.Wired clockOf sourceOf) {clockOf' : List ClockId}
    {sourceOf' : List SourceId} (hc' : c.Wired clockOf' sourceOf') : clockOf' = clockOf := by
  refine List.ext_getElem? fun s ↦ Option.ext fun k ↦ ?_
  rw [← (hc.listens k).mem_iff, ← (hc'.listens k).mem_iff]

/-! ### One more object -/

theorem Wired.addClock (hc : c.Wired clockOf sourceOf) {interval : Duration} {id : ClockId}
    {c' : Circuit ρ} (h : c.addClock interval = .ok (id, c')) :
    id = c.clocks.size ∧ c'.clocks.size = c.clocks.size + 1 ∧ c'.values = c.values ∧
      c'.Wired clockOf sourceOf := by
  obtain ⟨rfl, rfl⟩ := addClock_ok h
  refine ⟨rfl, Array.size_push _, rfl, hc.sources_size, hc.values_size, fun k ↦ ?_, hc.attends⟩
  -- The new clock has no listeners, just as a clock that does not exist.
  have hsame :
      ({ c with clocks := c.clocks.push { interval := interval } } : Circuit ρ).listeners k =
        c.listeners k := by
    unfold listeners
    rw [Array.getElem?_push]
    split_ifs with hk
    · rw [hk, Array.getElem?_eq_none (Nat.le_refl _)]
      rfl
    · rfl
  rw [hsame]
  exact hc.listens k

theorem Wired.addSource [Random.Rng ρ] (hc : c.Wired clockOf sourceOf) {min max : Int64}
    {clock : ClockId} (hclock : clock < c.clocks.size) {id : SourceId} {c' : Circuit ρ}
    (h : c.addSource min max clock = .ok (id, c')) :
    id = clockOf.length ∧ c'.clocks.size = c.clocks.size ∧ c'.values = c.values ∧
      c'.Wired (clockOf ++ [clock]) sourceOf := by
  obtain ⟨rfl, rfl⟩ := addSource_ok h
  refine ⟨hc.sources_size, Array.size_modify, rfl, ?_, hc.values_size, fun k ↦ ?_, fun s ↦ ?_⟩
  · rw [Array.size_push, hc.sources_size, List.length_append, List.length_singleton]
  · have hlisteners := (hc.listens k).concat clock
    rw [← hc.sources_size] at hlisteners
    convert hlisteners using 1
    unfold listeners
    rw [Array.getElem?_modify]
    split_ifs with hk
    · subst hk
      rw [Array.getElem?_eq_getElem hclock]
      rfl
    · rfl
  · convert hc.attends s using 1
    unfold audience
    rw [Array.getElem?_push]
    split_ifs with hs
    · rw [hs, Array.getElem?_eq_none (Nat.le_refl _)]
      rfl
    · rfl

theorem Wired.addValue (hc : c.Wired clockOf sourceOf) (transforms : List Transform)
    (reset : ResetPolicy) {source : SourceId} (hsource : source < c.sources.size) :
    (c.addValue transforms reset source).1 = sourceOf.length ∧
      (c.addValue transforms reset source).2.Wired clockOf (sourceOf ++ [source]) := by
  refine ⟨hc.values_size, ?_, ?_, hc.listens, fun s ↦ ?_⟩
  · show (c.sources.modify source _).size = clockOf.length
    rw [Array.size_modify, hc.sources_size]
  · show (c.values.push _).size = (sourceOf ++ [source]).length
    rw [Array.size_push, hc.values_size, List.length_append, List.length_singleton]
  · have haudience := (hc.attends s).concat source
    rw [← hc.values_size] at haudience
    convert haudience using 1
    unfold audience Circuit.addValue
    rw [Array.getElem?_modify]
    split_ifs with hs
    · subst hs
      rw [Array.getElem?_eq_getElem hsource]
      rfl
    · rfl

end Circuit

/-! ### Building -/

/-- What a value takes in and what becomes of it when it is read never change. -/
def Value.spec (v : Value) : ValueSpec := ⟨v.transforms, v.reset⟩

/-- The builder knows every clock of its circuit, and what it keeps under a name is in the circuit
just as it is kept. -/
structure Builder.Connected (b : Builder (Circuit ρ)) (clockOf : List ClockId)
    (sourceOf : List SourceId) : Prop where
  wired : b.objects.Wired clockOf sourceOf
  clockList : b.clockList = List.range b.objects.clocks.size
  clocks : ∀ name id, b.clocks.lookup name = some id → id < b.objects.clocks.size
  feeds : ∀ name feed, b.feeds.lookup name = some feed → clockOf[feed.source]? = some feed.clock

/-- The objects of a metric are connected with each other, and its value is as it was declared. -/
structure MetricConnected (clockOf : List ClockId) (values : Array Value) (number : Nat)
    (m : Config.Metric) (h : Handles) : Prop where
  value_eq : h.value = number
  clockOf_source : clockOf[h.source]? = some h.clock
  declared : ∃ v, values[number]? = some v ∧ Builder.valueSpec m.value = .ok v.spec

section Building

variable {instances : Config.Instances} {b b' : Builder (Circuit ρ)}
  {clockOf clockOf' : List ClockId} {sourceOf : List SourceId}

theorem getElem?_of_prefix {α : Type} {l l' : List α} (h : l <+: l') {i : Nat} {a : α}
    (hi : l[i]? = some a) : l'[i]? = some a := by
  obtain ⟨rest, rfl⟩ := h
  obtain ⟨hlt, -⟩ := List.getElem?_eq_some_iff.mp hi
  rw [List.getElem?_append_left hlt, hi]

variable [Random.Rng ρ]

theorem newClock_connected (hb : b.Connected clockOf sourceOf) {c : Config.Clock} {id : ClockId}
    (h : b.newClock Circuit.factory c = .ok (id, b')) :
    id < b'.objects.clocks.size ∧ b'.Connected clockOf sourceOf ∧
      b'.objects.values = b.objects.values := by
  obtain ⟨kind, objects, hmade, rfl⟩ := Builder.newClock_ok h
  obtain ⟨rfl, hsize, hvalues, hwired⟩ := hb.wired.addClock hmade
  refine ⟨?_, ⟨hwired, ?_, fun name id hname ↦ ?_, hb.feeds⟩, hvalues⟩
  · show b.objects.clocks.size < objects.clocks.size
    rw [hsize]
    exact Nat.lt_succ_self _
  · show b.clockList ++ [b.objects.clocks.size] = List.range objects.clocks.size
    rw [hb.clockList, hsize, List.range_succ]
  · have hold := hb.clocks name id hname
    show id < objects.clocks.size
    rw [hsize]
    exact Nat.lt_succ_of_lt hold

theorem clock_connected (hb : b.Connected clockOf sourceOf) {c : Config.Clock}
    {marker : Option String} {id : ClockId}
    (h : b.clock Circuit.factory instances c marker = .ok (id, b')) :
    id < b'.objects.clocks.size ∧ b'.Connected clockOf sourceOf ∧
      b'.objects.values = b.objects.values := by
  rcases Builder.clock_ok h with ⟨-, hnew⟩ | ⟨name, -, hcached, rfl⟩ |
    ⟨name, entry, made, -, -, -, hnew, rfl⟩
  · exact newClock_connected hb hnew
  · exact ⟨hb.clocks name id hcached, hb, rfl⟩
  · obtain ⟨hlt, hmade, hvalues⟩ := newClock_connected hb hnew
    refine ⟨hlt, ⟨hmade.wired, hmade.clockList, fun other k hother ↦ ?_, hmade.feeds⟩, hvalues⟩
    rcases Assoc.lookup_concat_eq_some_iff.mp hother with hold | ⟨-, -, rfl⟩
    · exact hmade.clocks other k hold
    · exact hlt

/-- A new source is made for the clock that it is given together with. -/
theorem newFeed_connected (hb : b.Connected clockOf sourceOf) {c : Config.Clock}
    {marker : Option String} {s : Config.Source} {feed : Feed}
    (h : b.newFeed Circuit.factory instances c marker s = .ok (feed, b')) :
    ∃ clockOf', clockOf <+: clockOf' ∧ clockOf'[feed.source]? = some feed.clock ∧
      b'.Connected clockOf' sourceOf ∧ b'.objects.values = b.objects.values := by
  obtain ⟨made, hclock, hsource⟩ := Builder.newFeed_ok h
  obtain ⟨hlt, hmade, hvalues⟩ := clock_connected hb hclock
  obtain ⟨kind, objects, hadded, rfl⟩ := Builder.newSource_ok hsource
  obtain ⟨hid, hsize, hvalues', hwired⟩ := hmade.wired.addSource hlt hadded
  have hprefix : clockOf <+: clockOf ++ [feed.clock] := List.prefix_append _ _
  refine ⟨clockOf ++ [feed.clock], hprefix, ?_, ⟨hwired, ?_, fun name id hname ↦ ?_,
    fun name known hname ↦ ?_⟩, hvalues'.trans hvalues⟩
  · rw [hid, List.getElem?_concat_length]
  · show made.clockList = List.range objects.clocks.size
    rw [hmade.clockList, hsize]
  · show id < objects.clocks.size
    rw [hsize]
    exact hmade.clocks name id hname
  · exact getElem?_of_prefix hprefix (hmade.feeds name known hname)

theorem feed_connected (hb : b.Connected clockOf sourceOf) {v : Config.Value} {feed : Feed}
    (h : b.feed Circuit.factory instances v = .ok (feed, b')) :
    ∃ clockOf', clockOf <+: clockOf' ∧ clockOf'[feed.source]? = some feed.clock ∧
      b'.Connected clockOf' sourceOf ∧ b'.objects.values = b.objects.values := by
  rcases Builder.feed_ok h with ⟨name, -, -, hshared⟩ | ⟨-, c, marker, -, hnew⟩
  · rcases Builder.sharedFeed_ok hshared with ⟨hcached, rfl⟩ | ⟨s, c, made, -, -, -, hnew, rfl⟩
    · exact ⟨clockOf, List.prefix_rfl, hb.feeds name feed hcached, hb, rfl⟩
    · obtain ⟨clockOf', hprefix, hsource, hmade, hvalues⟩ := newFeed_connected hb hnew
      refine ⟨clockOf', hprefix, hsource, ⟨hmade.wired, hmade.clockList, hmade.clocks, ?_⟩, hvalues⟩
      intro other known hother
      rcases Assoc.lookup_concat_eq_some_iff.mp hother with hold | ⟨-, -, rfl⟩
      · exact hmade.feeds other known hold
      · exact hsource
  · exact newFeed_connected hb hnew

theorem metric_connected (hb : b.Connected clockOf sourceOf) {v : Config.Value} {handles : Handles}
    (h : b.metric Circuit.factory instances v = .ok (handles, b')) :
    ∃ clockOf' spec, clockOf <+: clockOf' ∧ clockOf'[handles.source]? = some handles.clock ∧
      b'.Connected clockOf' (sourceOf ++ [handles.source]) ∧ handles.value = sourceOf.length ∧
      Builder.valueSpec v = .ok spec ∧
      b'.objects.values = b.objects.values.push (Value.new spec.transforms spec.reset) := by
  obtain ⟨made, spec, objects, hfeed, hspec, hvalue, rfl⟩ := Builder.metric_ok h
  obtain ⟨clockOf', hprefix, hsource, hmade, hvalues⟩ := feed_connected hb hfeed
  obtain ⟨hid, rfl⟩ := Prod.mk.inj (Except.ok.inj hvalue)
  obtain ⟨hnumber, hwired⟩ := hmade.wired.addValue spec.transforms spec.reset
    (hmade.wired.source_lt hsource)
  refine ⟨clockOf', spec, hprefix, hsource, ⟨hwired, hmade.clockList, hmade.clocks, hmade.feeds⟩,
    hid.symm.trans hnumber, hspec, ?_⟩
  show made.objects.values.push _ = b.objects.values.push _
  rw [hvalues]

/-- The metrics built one after the other are all connected in the end. -/
theorem metrics_connected {ms : List Config.Metric} {n : Nat} {hs : List Handles}
    (hb : b.Connected clockOf sourceOf)
    (h : b.metrics Circuit.factory instances n ms = .ok (hs, b')) :
    ∃ clockOf', clockOf <+: clockOf' ∧ b'.Connected clockOf' (sourceOf ++ hs.map (·.source)) ∧
      (∀ (i : Nat) (v : Value), b.objects.values[i]? = some v → b'.objects.values[i]? = some v) ∧
      hs.length = ms.length ∧
      ∀ i m handles, ms[i]? = some m → hs[i]? = some handles →
        MetricConnected clockOf' b'.objects.values (sourceOf.length + i) m handles := by
  induction ms generalizing n b clockOf sourceOf hs with
  | nil =>
    obtain ⟨rfl, rfl⟩ := Prod.mk.inj (Except.ok.inj h)
    refine ⟨clockOf, List.prefix_rfl, ?_, fun _ _ hi ↦ hi, rfl, by simp⟩
    rw [List.map_nil, List.append_nil]
    exact hb
  | cons m rest ih =>
    obtain ⟨first, made, others, hfirst, hothers, rfl⟩ := Builder.metrics_cons_ok h
    obtain ⟨clockOf₁, spec, hprefix₁, hsource, hmade, hvalue, hspec, hpush⟩ :=
      metric_connected hb hfirst
    obtain ⟨clockOf₂, hprefix₂, hb', hkept, hlength, hrest⟩ := ih hmade hothers
    rw [hpush] at hkept
    refine ⟨clockOf₂, hprefix₁.trans hprefix₂, ?_, fun i v hi ↦ hkept i v ?_, ?_, ?_⟩
    · rw [List.map_cons, List.append_cons]
      exact hb'
    · obtain ⟨hlt, -⟩ := Array.getElem?_eq_some_iff.mp hi
      rw [Array.getElem?_push_lt hlt, ← hi, Array.getElem?_eq_getElem hlt]
    · rw [List.length_cons, List.length_cons, hlength]
    · intro i m' handles hm hhandles
      cases i with
      | zero =>
        obtain rfl : m = m' := by simpa using hm
        obtain rfl : first = handles := by simpa using hhandles
        refine ⟨hvalue, getElem?_of_prefix hprefix₂ hsource,
          ⟨Value.new spec.transforms spec.reset, hkept _ _ ?_, hspec⟩⟩
        rw [Nat.add_zero, ← hb.wired.values_size, Array.getElem?_push_size]
      | succ i =>
        have hconnected := hrest i m' handles (by simpa using hm) (by simpa using hhandles)
        rw [List.length_append, List.length_singleton, Nat.add_assoc, Nat.add_comm 1] at hconnected
        exact hconnected

end Building

/-! ### Generators -/

/-- The circuit is wired up as the handles of the metrics say. -/
structure Generator.Connected (g : Generator (Circuit ρ)) (ms : List Config.Metric)
    (clockOf : List ClockId) : Prop where
  wired : g.circuit.Wired clockOf (g.metrics.toList.map (·.source))
  clockList : g.clockList = List.range g.circuit.clocks.size
  size : g.metrics.size = ms.length
  metric : ∀ i m h, ms[i]? = some m → g.handles? i = some h →
    MetricConnected clockOf g.circuit.values i m h

theorem Builder.connected_empty (seeds : Random.Seeds) :
    Builder.Connected { objects := ({ seeds := seeds } : Circuit ρ) } [] [] :=
  ⟨Circuit.wired_empty seeds, rfl, by simp, by simp⟩

theorem Generator.connected_of_config [Random.Rng ρ] {seeds : Random.Seeds} {config : Config}
    {g : Generator (Circuit ρ)} (h : Generator.ofConfig seeds config = .ok g) :
    ∃ clockOf, g.Connected config.metrics clockOf := by
  obtain ⟨⟨hs, b⟩, hmetrics, h⟩ := bind_eq_ok_iff.mp h
  obtain rfl := Except.ok.inj h
  obtain ⟨clockOf, -, hb, -, hlength, hconnected⟩ :=
    metrics_connected (Builder.connected_empty seeds) hmetrics
  refine ⟨clockOf, hb.wired, hb.clockList, hlength, fun i m handles hm hhandles ↦ ?_⟩
  rw [handles?, List.getElem?_toArray] at hhandles
  have hmetric := hconnected i m handles hm hhandles
  rw [List.length_nil, Nat.zero_add] at hmetric
  exact hmetric

end TelemetrySim.Live
