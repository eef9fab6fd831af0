import TelemetrySim.Proofs.Exposition.LineEnds
import TelemetrySim.Proofs.Live.Transcript

/-!
Readings that are taken. A reading that is taken may be set back, so what an exporter shows hangs on
how often and when it reads. Each metric has a value for itself, so taking one reading leaves the
others as they are, and readings of all metrics come out as they stood at the beginning
(`Registry.readAll_eq`), whatever the order in which they are taken. A snapshot and the text, which
is put together by families, therefore show the same numbers and leave the same state behind
(`readings_of_config`).
-/

set_option autoImplicit false
set_option relaxedAutoImplicit false

namespace TelemetrySim.Live

variable {ρ : Type}

/-! ### Taking readings -/

namespace Circuit

/-- Takes the readings of values one after the other. -/
def takeReadings (ids : List ValueId) (c : Circuit ρ) : Circuit ρ :=
  ids.foldl (fun c id ↦ c.onValue Value.afterRead id) c

theorem onValue_comm (f : Value → Value) (i j : ValueId) (c : Circuit ρ) :
    (c.onValue f i).onValue f j = (c.onValue f j).onValue f i := by
  have hvalues : (c.values.modify i f).modify j f = (c.values.modify j f).modify i f := by
    refine Array.ext_getElem? fun k ↦ ?_
    simp only [Array.getElem?_modify]
    split_ifs <;> rfl
  exact congrArg (fun vs ↦ { c with values := vs }) hvalues

/-- The order in which readings are taken does not matter. -/
theorem takeReadings_perm {ids ids' : List ValueId} (h : ids.Perm ids') (c : Circuit ρ) :
    c.takeReadings ids = c.takeReadings ids' :=
  h.foldl_eq' (fun i _ j _ c ↦ onValue_comm Value.afterRead i j c) c

theorem peek?_onValue_of_ne {f : Value → Value} {i j : ValueId} (h : i ≠ j) (c : Circuit ρ) :
    (c.onValue f i).peek? j = c.peek? j := by
  rw [peek?, onValue, Array.getElem?_modify, if_neg h]
  rfl

end Circuit

namespace Generator

variable {g : Generator (Circuit ρ)} {ms : List Config.Metric} {clockOf : List ClockId}

/-- A metric has the value of its own number. -/
theorem Connected.exists_value (hg : g.Connected ms clockOf) {i : Nat} {m : Config.Metric}
    (hm : ms[i]? = some m) :
    ∃ h v, g.handles? i = some h ∧ h.value = i ∧ g.circuit.values[i]? = some v := by
  obtain ⟨hlt, -⟩ := List.getElem?_eq_some_iff.mp hm
  rw [← hg.size] at hlt
  have hi : g.handles? i = some g.metrics[i] := Array.getElem?_eq_getElem hlt
  obtain ⟨hvalue, -, v, hv, -⟩ := hg.metric i m _ hm hi
  exact ⟨_, v, hi, hvalue, hv⟩

theorem Connected.run_reads [Random.Rng ρ] (hg : g.Connected ms clockOf) (order : List Nat) :
    g.run (order.map .read) = g.onCircuit (·.takeReadings order) := by
  induction order generalizing g with
  | nil => rfl
  | cons i rest ih =>
    have hrun : g.run ((i :: rest).map .read) =
        ((Action.read i).apply g).run (rest.map .read) := rfl
    rw [hrun, ih (hg.apply _), hg.apply_read]
    rfl

end Generator

end TelemetrySim.Live

namespace TelemetrySim.Exposition

open Live

variable {ρ : Type}

namespace Registry

/-- A series without a value reads zero, which changes nothing. -/
theorem series_read_eq (s : Series) (g : Generator (Circuit ρ)) :
    s.read g = ((g.circuit.peek? s.value).getD 0,
      g.onCircuit (·.onValue Value.afterRead s.value)) := by
  rw [Series.read, Generator.readValue, Circuit.read?, Circuit.peek?]
  cases hv : g.circuit.values[s.value]? with
  | some v => rfl
  | none =>
    have hsame : g.circuit.onValue Value.afterRead s.value = g.circuit := by
      rw [Circuit.onValue, modify_eq_self (by simp [hv])]
    rw [Generator.onCircuit, hsame]
    rfl

/-- Series with different values are read as they stand at the beginning. -/
theorem readAll_eq {r : Registry} (hr : (r.map Series.value).Nodup)
    (g : Generator (Circuit ρ)) :
    r.readAll g = (r.map fun s ↦ (s, (g.circuit.peek? s.value).getD 0),
      g.onCircuit (·.takeReadings (r.map Series.value))) := by
  induction r generalizing g with
  | nil => rfl
  | cons s rest ih =>
    obtain ⟨hs, hrest⟩ := List.nodup_cons.mp hr
    rw [readAll_cons, series_read_eq, ih hrest]
    have hothers : rest.map (fun s' ↦ (s', (((g.onCircuit
        (·.onValue Value.afterRead s.value)).circuit).peek? s'.value).getD 0)) =
          rest.map fun s' ↦ (s', (g.circuit.peek? s'.value).getD 0) := by
      refine List.map_congr_left fun s' hs' ↦ ?_
      have hne : s.value ≠ s'.value := fun heq ↦ hs (List.mem_map.mpr ⟨s', hs', heq.symm⟩)
      exact congrArg (fun x : Option Int64 ↦ (s', x.getD 0)) (Circuit.peek?_onValue_of_ne hne _)
    rw [hothers]
    rfl

theorem map_value_zipWith {ms : List Config.Metric} {hs : List Handles}
    (h : hs.length = ms.length) :
    (ms.zipWith series hs).map Series.value = hs.map (·.value) := by
  induction ms generalizing hs with
  | nil =>
    obtain rfl := List.eq_nil_of_length_eq_zero h
    rfl
  | cons m rest ih =>
    cases hs with
    | nil => simp at h
    | cons handles others =>
      exact congrArg (handles.value :: ·) (ih (Nat.succ.inj h))

end Registry

/-- What exporters show of metrics in a state, and what they leave behind. -/
structure Registry.Shown [Random.Rng ρ] (ms : List Config.Metric) (r : Registry)
    (g : Generator (Circuit ρ)) : Prop where
  /-- A snapshot has one reading for each metric, in their order: the one that the metric would be
  read with in this state. -/
  snapshot : ∀ i m, ms[i]? = some m → ∃ h x g', g.handles? i = some h ∧
    g.read? i = some (x, g') ∧ (r.readAll g).1[i]? = some (series m h, x)
  length_eq : (r.readAll g).1.length = ms.length
  /-- The text consists of the lines of these readings. -/
  text : Exposes ms ((r.readAll g).1.map sample) (r.render g).1
  /-- Each reading stands on one line. -/
  printed : ((lines ((r.readAll g).1.map sample)).filterMap Line.sample?).Perm
    ((r.readAll g).1.map sample)
  state : (r.render g).2 = (r.readAll g).2
  /-- The state is the same as if every metric was read once, in whatever order. -/
  once : ∀ order : List Nat, order.Perm (List.range ms.length) →
    g.run (order.map .read) = (r.readAll g).2

theorem Registry.shown_of_connected [Random.Rng ρ] {g : Generator (Circuit ρ)}
    {ms : List Config.Metric} {clockOf : List ClockId} (hg : g.Connected ms clockOf) :
    Registry.Shown ms (ms.zipWith Registry.series g.metrics.toList) g := by
  have hlength : g.metrics.toList.length = ms.length := by
    rw [Array.length_toList, hg.size]
  have hvalues : (ms.zipWith series g.metrics.toList).map Series.value = List.range ms.length := by
    rw [map_value_zipWith hlength, hg.map_value, hg.values_size, hg.size]
  have hall := readAll_eq (hvalues ▸ List.nodup_range) g
  refine ⟨fun i m hm ↦ ?_, ?_, ⟨?_, ?_⟩, samples_lines_perm _, ?_, fun order horder ↦ ?_⟩
  · obtain ⟨h, v, hi, hvalue, hv⟩ := hg.exists_value hm
    have hread : g.read? i = some (v.peek, g.onCircuit (·.onValue Value.afterRead i)) := by
      rw [hg.read?_eq, hv]
      rfl
    have hseries : (ms.zipWith series g.metrics.toList)[i]? = some (series m h) := by
      have hget : g.metrics.toList[i]? = some h := Array.getElem?_toList.trans hi
      rw [List.getElem?_zipWith, hm, hget]
    have hpeek : g.circuit.peek? (series m h).value = some v.peek := by
      rw [Circuit.peek?, series, hvalue, hv]
      rfl
    refine ⟨h, v.peek, _, hi, hread, ?_⟩
    rw [hall, List.getElem?_map, hseries, Option.map_some, hpeek]
    rfl
  · rw [hall, List.length_map, List.length_zipWith, hlength, Nat.min_self]
  · exact shows_zipWith hlength (readAll_fst _ g)
  · rw [render_eq, text_eq_join_lines]
  · rw [render_eq]
  · rw [hg.run_reads, hall, hvalues]
    exact congrArg (fun c ↦ { g with objects := c }) (Circuit.takeReadings_perm horder g.circuit)

/-- In every state of a generator, the snapshot and the text show every metric with the number that
it would be read with, and both leave the state in which every metric has been read once. -/
theorem readings_of_config [Random.Rng ρ] {seeds : Random.Seeds} {config : Config}
    {g : Generator (Circuit ρ)} (h : Generator.ofConfig seeds config = .ok g) :
    ∃ r, (∀ actions, Registry.ofMetrics config.metrics (g.run actions) = .ok r) ∧
      ∀ actions, Registry.Shown config.metrics r (g.run actions) := by
  obtain ⟨clockOf, hg⟩ := Generator.connected_of_config h
  have hmetrics : ∀ actions, (g.run actions).metrics = g.metrics :=
    fun actions ↦ (Generator.run_sameBuild actions g).metrics
  refine ⟨config.metrics.zipWith Registry.series g.metrics.toList, fun actions ↦ ?_,
    fun actions ↦ ?_⟩
  · rw [Registry.ofMetrics_eq (hg.run actions).size, hmetrics]
  · rw [← hmetrics actions]
    exact Registry.shown_of_connected (hg.run actions)

/-- What the demonstration shows after one tick. The reading of its first metric is set back by
being shown, that of the second is not. -/
def Registry.DemoTicked (r : Registry) (g : Generator) : Prop :=
  (r.readAll (g.run [.tickAll])).1.map Prod.snd = [1, 1, 1, 4] ∧
    (r.render (g.run [.tickAll])).1 =
      "# HELP a A\n# TYPE a counter\na 1\n# HELP b B\n# TYPE b gauge\nb 1\n" ++
        "# HELP c C\n# TYPE c gauge\nc 1\n# HELP d D\n# TYPE d gauge\nd 4\n" ∧
    (r.render (g.run [.tickAll])).2.peek? 0 = some 0 ∧
    (r.render (g.run [.tickAll])).2.peek? 1 = some 1

theorem demo_ticked :
    ∃ (g : Generator) (r : Registry), Generator.ofConfig (.ofSetting none 7) Demo.config = .ok g ∧
      Registry.ofMetrics Demo.config.metrics g = .ok r ∧ r.DemoTicked g := by
  refine ⟨_, _, by with_unfolding_all rfl, by with_unfolding_all rfl, ?_⟩
  unfold Registry.DemoTicked
  decide +kernel

/-- The metrics of the demonstration, of which the first is set back when it is read. -/
theorem demo_readings :
    ∃ g : Generator, Generator.ofConfig (.ofSetting none 7) Demo.config = .ok g ∧ ∃ r,
      (∀ actions, Registry.ofMetrics Demo.config.metrics (g.run actions) = .ok r) ∧
        (∀ actions, Registry.Shown Demo.config.metrics r (g.run actions)) ∧ r.DemoTicked g := by
  obtain ⟨g, r, hg, hr, hticked⟩ := demo_ticked
  obtain ⟨r', hmetrics, hshown⟩ := readings_of_config hg
  obtain rfl : r = r' := Except.ok.inj (hr.symm.trans (hmetrics []))
  exact ⟨g, hg, r, hmetrics, hshown, hticked⟩

end TelemetrySim.Exposition
