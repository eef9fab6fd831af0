import TelemetrySim.Proofs.Live.Prefix

/-!
Generators of the first metrics only. Building some metrics first and the others afterwards is
building them all, so the generator of the first metrics is the beginning of the generator of all
metrics (`Generator.Embeds`). An action on both keeps it so, and one on a later metric leaves the
smaller generator alone. Hence two runs that differ only in what is done with later metrics answer
alike (`Embeds.transcript_eq`), and so do the generators of the first metrics and of all metrics
(`embeds_take`).
-/

set_option autoImplicit false
set_option relaxedAutoImplicit false

namespace TelemetrySim.Live

variable {ρ : Type}

open Outcome

/-! ### Transcripts -/

/-- What an action answers, if it asks for the reading of a metric. -/
def Action.answer : Action → Generator (Circuit ρ) → Option Int64
  | read metric, g => (g.read? metric).map Prod.fst
  | peek metric, g => g.peek? metric
  | _, _ => none

/-- Whether an action is done with the first `k` metrics, or with all there are. -/
def Action.concerns (k : Nat) : Action → Bool
  | read metric | peek metric | stopValue metric => decide (metric < k)
  | _ => true

/-- All clocks are stopped. -/
def Circuit.stopClocks (c : Circuit ρ) : Circuit ρ :=
  (List.range c.clocks.size).foldl (fun c k ↦ c.setStarted (fun _ ↦ none) k) c

theorem Circuit.stopClocks_moves [Random.Rng ρ] (c : Circuit ρ) : Moves c c.stopClocks :=
  moves_foldl (fun c k ↦ .single (.setStarted _ k c)) _ c

namespace Generator

/-- What is done with a generator, and what it answers. -/
def transcript [Random.Rng ρ] : List Action → Generator (Circuit ρ) → List (Action × Option Int64)
  | [], _ => []
  | a :: rest, g => (a, a.answer g) :: transcript rest (a.apply g)

/-! ### Metrics by number -/

section Connected

variable {g : Generator (Circuit ρ)} {ms : List Config.Metric} {clockOf : List ClockId}

theorem Connected.peek?_eq (hg : g.Connected ms clockOf) (i : Nat) :
    g.peek? i = g.circuit.values[i]?.map Value.peek := by
  rw [Generator.peek?_eq, hg.value?_eq]
  rfl

theorem Connected.map_value (hg : g.Connected ms clockOf) :
    g.metrics.toList.map (·.value) = List.range g.circuit.values.size := by
  refine List.ext_getElem? fun i ↦ ?_
  rw [List.getElem?_map, Array.getElem?_toList, hg.values_size]
  cases hi : g.metrics[i]? with
  | some h =>
    obtain ⟨m, -, hmetric⟩ := hg.handles hi
    rw [Option.map_some, hmetric.value_eq,
      List.getElem?_range (Array.getElem?_eq_some_iff.mp hi).1]
  | none =>
    rw [Option.map_none, List.getElem?_eq_none]
    rw [List.length_range]
    exact Array.getElem?_eq_none_iff.mp hi

variable [Random.Rng ρ]

theorem Connected.apply_read (hg : g.Connected ms clockOf) (i : Nat) :
    (Action.read i).apply g = g.onCircuit fun c ↦ c.onValue Value.afterRead i := by
  rw [Action.apply, hg.read?_eq]
  cases hi : g.circuit.values[i]? with
  | some v => rfl
  | none =>
    have hsame : g.circuit.onValue Value.afterRead i = g.circuit := by
      rw [Circuit.onValue, modify_eq_self (by simp [hi])]
    rw [onCircuit, hsame]
    rfl

theorem Connected.apply_stopValue (hg : g.Connected ms clockOf) (i : Nat) :
    (Action.stopValue i).apply g = g.onCircuit fun c ↦ c.stopValue i := by
  cases hi : g.handles? i with
  | some h =>
    obtain ⟨m, -, hmetric⟩ := hg.handles hi
    simp only [Action.apply, hi, hmetric.value_eq]
  | none =>
    have hout : g.circuit.values.size ≤ i := by
      rw [hg.values_size]
      exact Array.getElem?_eq_none_iff.mp hi
    simp only [Action.apply, hi, onCircuit, Circuit.stopValue_eq_self hout]

/-- Stopping everything stops all clocks, and then all values. -/
theorem Connected.foldl_stops (hg : g.Connected ms clockOf) :
    g.stops.foldl (fun c s ↦ s.apply c) g.circuit =
      (List.range g.circuit.stopClocks.values.size).foldl (fun c v ↦ c.stopValue v)
        g.circuit.stopClocks := by
  have hvalues : g.metrics.toList.map (fun h ↦ Stop.value h.value) =
      (List.range g.circuit.stopClocks.values.size).map .value := by
    rw [Circuit.values_size_of_moves g.circuit.stopClocks_moves, ← hg.map_value, List.map_map]
    rfl
  rw [stops, hvalues, List.foldl_append, List.foldl_map, List.foldl_map, hg.clockList]
  rfl

/-- Where there are only `k` metrics, actions on other metrics change nothing. -/
theorem Connected.apply_eq_self (hg : g.Connected ms clockOf) {k : Nat} (hk : ms.length ≤ k)
    {a : Action} (ha : a.concerns k = false) : a.apply g = g := by
  have hout : ∀ i, decide (i < k) = false → g.circuit.values.size ≤ i := by
    intro i hi
    have hle : k ≤ i := Nat.not_lt.mp (of_decide_eq_false hi)
    rw [hg.values_size, hg.size]
    exact Nat.le_trans hk hle
  cases a with
  | read i =>
    rw [Action.apply, hg.read?_eq, Array.getElem?_eq_none (hout i ha)]
    rfl
  | peek i => rfl
  | stopValue i => rw [hg.apply_stopValue, onCircuit, Circuit.stopValue_eq_self (hout i ha)]
  | tick | tickAll | elapse | start | stop => simp [Action.concerns] at ha

end Connected

/-! ### Smaller and larger generators -/

section Embeds

variable {ms : List Config.Metric} {k : Nat} {clockOf clockOf' : List ClockId}
  {g g' d d' : Generator (Circuit ρ)}

/-- The first generator is that of the first `k` metrics, in the same state as the second one. -/
structure Embeds (ms : List Config.Metric) (k : Nat) (clockOf clockOf' : List ClockId)
    (g g' : Generator (Circuit ρ)) : Prop where
  small : g.Connected (ms.take k) clockOf
  large : g'.Connected ms clockOf'
  clockOf_prefix : clockOf <+: clockOf'
  metrics : g.metrics.toList <+: g'.metrics.toList
  running : g.running = g'.running
  agrees : g.circuit.Agrees g'.circuit

theorem Embeds.circuits (h : Embeds ms k clockOf clockOf' g g') :
    Circuit.Embeds clockOf clockOf' (g.metrics.toList.map (·.source))
      (g'.metrics.toList.map (·.source)) g.circuit g'.circuit where
  clockOf_prefix := h.clockOf_prefix
  sourceOf_prefix := h.metrics.map (·.source)
  fed s hs := by
    obtain ⟨handles, hmem, rfl⟩ := List.mem_map.mp hs
    obtain ⟨i, hi⟩ := List.mem_iff_getElem?.mp hmem
    rw [Array.getElem?_toList] at hi
    obtain ⟨m, -, hmetric⟩ := h.small.handles hi
    exact (List.getElem?_eq_some_iff.mp hmetric.clockOf_source).1
  wired := h.small.wired
  wired' := h.large.wired
  agrees := h.agrees

/-- Steps for all clocks of each generator go together. -/
theorem Embeds.foldl_clocks (h : Embeds ms k clockOf clockOf' g g')
    {f : Circuit ρ → ClockId → Circuit ρ} (hf : Circuit.Local (·.clocks.size) f)
    (hstep : ∀ {sourceOf sourceOf' : List SourceId} {c c' : Circuit ρ} (i : ClockId),
      Circuit.Embeds clockOf clockOf' sourceOf sourceOf' c c' →
        Circuit.Embeds clockOf clockOf' sourceOf sourceOf' (f c i) (f c' i)) :
    Circuit.Embeds clockOf clockOf' (g.metrics.toList.map (·.source))
      (g'.metrics.toList.map (·.source))
      ((List.range g.circuit.clocks.size).foldl f g.circuit)
      ((List.range g'.circuit.clocks.size).foldl f g'.circuit) :=
  h.circuits.foldl_range hf (fun _ _ i hc ↦ hstep i hc) h.agrees.clocks.size_le

/-- Metrics that both generators have stand at the same value. -/
theorem Embeds.getElem?_values (h : Embeds ms k clockOf clockOf' g g') {i : Nat} (hi : i < k) :
    g'.circuit.values[i]? = g.circuit.values[i]? := by
  by_cases hlt : i < g.circuit.values.size
  · simpa using h.agrees.values i hlt
  · have hsmall : g.circuit.values.size = min k ms.length := by
      rw [h.small.values_size, h.small.size, List.length_take]
    have hlarge : g'.circuit.values.size = ms.length := by
      rw [h.large.values_size, h.large.size]
    rw [Array.getElem?_eq_none (Nat.not_lt.mp hlt), Array.getElem?_eq_none (by omega)]

theorem Embeds.answer_eq (h : Embeds ms k clockOf clockOf' g g') {a : Action}
    (ha : a.concerns k = true) : a.answer g = a.answer g' := by
  cases a with
  | read i =>
    have hvalues := h.getElem?_values (of_decide_eq_true ha)
    rw [Action.answer, Action.answer, h.small.read?_eq, h.large.read?_eq, hvalues, Option.map_map,
      Option.map_map]
    rfl
  | peek i =>
    have hvalues := h.getElem?_values (of_decide_eq_true ha)
    rw [Action.answer, Action.answer, h.small.peek?_eq, h.large.peek?_eq, hvalues]
  | tick | tickAll | elapse | start | stop | stopValue => rfl

variable [Random.Rng ρ]

theorem Embeds.apply_agrees (h : Embeds ms k clockOf clockOf' g g') (a : Action) :
    (a.apply g).running = (a.apply g').running ∧
      (a.apply g).circuit.Agrees (a.apply g').circuit := by
  cases a with
  | tick clock => exact ⟨h.running, (h.circuits.tick clock).agrees⟩
  | tickAll =>
    have hticks := h.foldl_clocks Circuit.local_tick fun i hc ↦ hc.tick i
    rw [← h.small.clockList, ← h.large.clockList] at hticks
    exact ⟨h.running, hticks.agrees⟩
  | elapse since now =>
    have hpasses := h.foldl_clocks (Circuit.local_pass since now) fun i hc ↦ hc.pass since now i
    exact ⟨h.running, hpasses.agrees⟩
  | read i =>
    rw [h.small.apply_read, h.large.apply_read]
    exact ⟨h.running, h.agrees.onValue Value.afterRead i⟩
  | peek i => exact ⟨h.running, h.agrees⟩
  | start now =>
    refine ⟨rfl, ?_⟩
    simp only [Action.apply, Generator.start]
    cases now with
    | none =>
      rw [startClocks_none, startClocks_none]
      exact h.agrees
    | some t =>
      rw [startClocks_some, startClocks_some, h.small.clockList, h.large.clockList]
      exact (h.foldl_clocks (Circuit.local_setStarted _) fun i hc ↦ hc.setStarted _ i).agrees
  | stop =>
    simp only [Action.apply, Generator.stop, ← h.running]
    split_ifs with hrunning
    · have hstopped := h.foldl_clocks (Circuit.local_setStarted _) fun i hc ↦
        hc.setStarted (fun _ ↦ none) i
      have hvalues := hstopped.foldl_range Circuit.local_stopValue (fun _ _ v hc ↦ hc.stopValue v)
        hstopped.agrees.values.size_le
      rw [h.small.foldl_stops, h.large.foldl_stops]
      exact ⟨rfl, hvalues.agrees⟩
    · exact ⟨h.running, h.agrees⟩
  | stopValue i =>
    rw [h.small.apply_stopValue, h.large.apply_stopValue]
    exact ⟨h.running, h.agrees.onValue Value.stop i⟩

/-- The same action is done with both generators. -/
theorem Embeds.apply (h : Embeds ms k clockOf clockOf' g g') (a : Action) :
    Embeds ms k clockOf clockOf' (a.apply g) (a.apply g') where
  small := h.small.apply a
  large := h.large.apply a
  clockOf_prefix := h.clockOf_prefix
  metrics := by
    rw [(apply_sameBuild a g).metrics, (apply_sameBuild a g').metrics]
    exact h.metrics
  running := (h.apply_agrees a).1
  agrees := (h.apply_agrees a).2

/-- What is done with later metrics in between never shows in the answers of the first ones. -/
theorem Embeds.transcript_eq (h : Embeds ms k clockOf clockOf' g g') (actions : List Action) :
    g.transcript (actions.filter (·.concerns k)) =
      (g'.transcript actions).filter fun p ↦ p.1.concerns k := by
  induction actions generalizing g g' with
  | nil => rfl
  | cons a rest ih =>
    have hrest := ih (h.apply a)
    cases ha : a.concerns k with
    | true =>
      simp only [transcript, List.filter_cons, ha, if_true, h.answer_eq ha, hrest]
    | false =>
      rw [h.small.apply_eq_self (List.length_take_le k ms) ha] at hrest
      simp only [transcript, List.filter_cons, ha, Bool.false_eq_true, if_false, hrest]

end Embeds

/-! ### Built generators -/

section Built

variable [Random.Rng ρ] {seeds : Random.Seeds} {config : Config} {g : Generator (Circuit ρ)}

/-- The first metrics of a generator make a generator of their own, which is the beginning of it. -/
theorem embeds_take (h : ofConfig seeds config = .ok g) (k : Nat) :
    ∃ g' clockOf clockOf', ofMetrics seeds config.instances (config.metrics.take k) = .ok g' ∧
      Embeds config.metrics k clockOf clockOf' g' g := by
  obtain ⟨clockOf', hlarge⟩ := connected_of_config h
  obtain ⟨⟨hs, b⟩, hmetrics, h⟩ := bind_eq_ok_iff.mp h
  obtain rfl := Except.ok.inj h
  rw [← List.take_append_drop k config.metrics] at hmetrics
  obtain ⟨first, made, others, hfirst, hothers, rfl⟩ := Builder.metrics_append_ok hmetrics
  have hbuilt : ofConfig seeds { config with metrics := config.metrics.take k } =
      .ok (ofBuilder first made) := bind_eq_ok_iff.mpr ⟨(first, made), hfirst, rfl⟩
  obtain ⟨clockOf, hsmall⟩ := connected_of_config hbuilt
  refine ⟨ofBuilder first made, clockOf, clockOf', hbuilt, hsmall, hlarge, ?_,
    List.prefix_append first others, rfl,
    Circuit.agrees_of_makesAll (Builder.metrics_makes hothers)⟩
  -- The later metrics were built from where the first ones had led to, with clocks known by then.
  obtain ⟨middle, -, hmade, -⟩ := metrics_connected (Builder.connected_empty seeds) hfirst
  obtain ⟨last, hprefix, hb, -⟩ := metrics_connected hmade hothers
  rw [hmade.wired.clockOf_unique hsmall.wired, hb.wired.clockOf_unique hlarge.wired]
  exact hprefix

end Built

end Generator

end TelemetrySim.Live
