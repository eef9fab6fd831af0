import TelemetrySim.Proofs.Live.Transcript

/-!
Starting and stopping. Stopping a running generator stops all its clocks and then the values of all
metrics (`Generator.stop_circuit`), and a stopped value ignores updates, so once all values are
stopped nothing but a reading changes them (`Generator.values_apply`), through any further run
(`Generator.Connected.run_halted`). A start that fails starts no clock, but the generator counts as
running from then on, so that a stop has this effect (`Generator.start_failed`). A stop of a
generator that is running is final (`Generator.stop_final`).
-/

set_option autoImplicit false
set_option relaxedAutoImplicit false

namespace TelemetrySim.Live

variable {ρ : Type}

/-! ### Stopping many objects -/

def Clock.stop (k : Clock) : Clock := { k with started := none }

theorem getElem?_foldl_modify {α : Type} {f : α → α} (hf : ∀ a, f (f a) = f a) (l : List Nat)
    (xs : Array α) (i : Nat) :
    (l.foldl (fun xs j ↦ xs.modify j f) xs)[i]? = if i ∈ l then xs[i]?.map f else xs[i]? := by
  induction l generalizing xs with
  | nil => simp
  | cons j rest ih =>
    rw [List.foldl_cons, ih, Array.getElem?_modify]
    by_cases hj : j = i
    · subst hj
      have hmap : (xs[j]?.map f).map f = xs[j]?.map f := by
        rw [Option.map_map]
        exact congrArg (xs[j]?.map ·) (funext hf)
      rw [if_pos rfl, if_pos List.mem_cons_self, hmap, ite_self]
    · have hmem : i ∈ j :: rest ↔ i ∈ rest := by
        rw [List.mem_cons]
        exact ⟨fun h ↦ h.resolve_left (Ne.symm hj), .inr⟩
      rw [if_neg hj, if_congr hmem rfl rfl]

namespace Circuit

theorem foldl_stopClock (l : List ClockId) (c : Circuit ρ) :
    l.foldl (fun c k ↦ c.stopClock k) c =
      { c with clocks := l.foldl (fun ks k ↦ ks.modify k Clock.stop) c.clocks } := by
  induction l generalizing c with
  | nil => rfl
  | cons k rest ih => exact ih (c.stopClock k)

theorem foldl_stopValue (l : List ValueId) (c : Circuit ρ) :
    l.foldl (fun c v ↦ c.stopValue v) c =
      { c with values := l.foldl (fun vs v ↦ vs.modify v Value.stop) c.values } := by
  induction l generalizing c with
  | nil => rfl
  | cons v rest ih => exact ih (c.stopValue v)

end Circuit

namespace Generator

variable {g : Generator (Circuit ρ)}

/-- Stops of some clocks and then of some values. -/
theorem foldl_stops (clocks : List ClockId) (values : List ValueId) (c : Circuit ρ) :
    (clocks.map Stop.clock ++ values.map Stop.value).foldl (fun c s ↦ s.apply c) c =
      { c with
        clocks := clocks.foldl (fun ks k ↦ ks.modify k Clock.stop) c.clocks
        values := values.foldl (fun vs v ↦ vs.modify v Value.stop) c.values } := by
  have hclocks := Circuit.foldl_stopClock clocks c
  rw [List.foldl_append, List.foldl_map, List.foldl_map]
  -- To apply the stop of a clock is to stop the clock, and the same goes for values.
  change values.foldl (fun c v ↦ c.stopValue v) (clocks.foldl (fun c k ↦ c.stopClock k) c) = _
  rw [hclocks, Circuit.foldl_stopValue]

theorem isRunning_foldl_stops {clocks : List ClockId} {k : ClockId} {c : Circuit ρ}
    (hk : k < c.clocks.size → k ∈ clocks) (values : List ValueId) :
    ((clocks.map Stop.clock ++ values.map Stop.value).foldl (fun c s ↦ s.apply c) c).isRunning k =
      false := by
  have hstop : ∀ a : Clock, a.stop.stop = a.stop := fun _ ↦ rfl
  rw [foldl_stops, Circuit.isRunning, getElem?_foldl_modify hstop]
  cases hclock : c.clocks[k]? with
  | none =>
    rw [Option.map_none, ite_self]
    rfl
  | some clock =>
    rw [if_pos (hk (Array.getElem?_eq_some_iff.mp hclock).1)]
    rfl

theorem stops_eq (g : Generator (Circuit ρ)) :
    g.stops = g.clockList.map Stop.clock ++ (g.metrics.toList.map (·.value)).map Stop.value := by
  rw [stops, List.map_map]
  rfl

theorem stop_eq_foldl (h : g.running = true) :
    g.stop = { g with
      running := false, objects := g.stops.foldl (fun c s ↦ s.apply c) g.circuit } := by
  rw [stop, if_pos h]

theorem stop_circuit (h : g.running = true) :
    g.stop.circuit = { g.circuit with
      clocks := g.clockList.foldl (fun ks k ↦ ks.modify k Clock.stop) g.circuit.clocks
      values := (g.metrics.toList.map (·.value)).foldl (fun vs v ↦ vs.modify v Value.stop)
        g.circuit.values } := by
  rw [stop_eq_foldl h, ← foldl_stops, ← stops_eq]

theorem isRunning_stop (h : g.running = true) {k : ClockId}
    (hk : k < g.circuit.clocks.size → k ∈ g.clockList) : g.stop.circuit.isRunning k = false := by
  rw [stop_eq_foldl h]
  show (g.stops.foldl (fun c s ↦ s.apply c) g.circuit).isRunning k = false
  rw [stops_eq, isRunning_foldl_stops hk]

theorem value?_stop (h : g.running = true) (i : Nat) :
    g.stop.value? i = (g.value? i).map Value.stop := by
  have hstop : ∀ v : Value, v.stop.stop = v.stop := fun _ ↦ rfl
  have hhandles : g.stop.handles? i = g.handles? i := by
    rw [stop, if_pos h]
    rfl
  cases hi : g.handles? i with
  | none =>
    rw [value?, value?, hhandles, hi]
    rfl
  | some handles =>
    have hmem : handles.value ∈ g.metrics.toList.map (·.value) :=
      List.mem_map_of_mem (Array.mem_toList_iff.mpr (Array.mem_of_getElem? hi))
    rw [value?, value?, hhandles, hi, Option.bind_some, Option.bind_some, stop_circuit h,
      getElem?_foldl_modify hstop, if_pos hmem]

end Generator

/-! ### Stopped values -/

theorem Value.stop_eq_self {v : Value} (h : v.stopped = true) : v.stop = v := by
  rw [Value.stop, ← h]

theorem Value.update_of_stopped {v : Value} (h : v.stopped = true) (x : Int64) :
    v.update x = v := by
  rw [Value.update, if_pos h]

namespace Circuit

/-- All values are stopped. -/
def Halted (c : Circuit ρ) : Prop :=
  ∀ (i : ValueId) (v : Value), c.values[i]? = some v → v.stopped = true

variable {c c' : Circuit ρ}

theorem Halted.of_values (h : c.Halted) (hvalues : c'.values = c.values) : c'.Halted := by
  intro i v hv
  rw [hvalues] at hv
  exact h i v hv

theorem onValue_of_halted (h : c.Halted) {f : Value → Value}
    (hf : ∀ v, v.stopped = true → f v = v) (i : ValueId) : c.onValue f i = c := by
  rw [onValue, modify_eq_self fun v hv ↦ hf v (h i v hv)]

theorem publish_of_halted (h : c.Halted) (x : Int64) (listeners : List ValueId) :
    c.publish x listeners = c := by
  unfold publish
  induction listeners with
  | nil => rfl
  | cons i rest ih =>
    rw [List.foldl_cons, onValue_of_halted h (fun v hv ↦ v.update_of_stopped hv x) i, ih]

/-- What leaves stopped values alone does so any number of times. -/
theorem values_foldl {α : Type} {f : Circuit ρ → α → Circuit ρ}
    (hf : ∀ c a, c.Halted → (f c a).values = c.values) (l : List α) (h : c.Halted) :
    (l.foldl f c).values = c.values := by
  induction l generalizing c with
  | nil => rfl
  | cons a rest ih =>
    have hfirst := hf c a h
    rw [List.foldl_cons, ih (h.of_values hfirst), hfirst]

theorem values_setStarted (c : Circuit ρ) (f : Option Nat → Option Nat) (k : ClockId) :
    (c.setStarted f k).values = c.values := rfl

theorem values_stop (h : c.Halted) (s : Generator.Stop) : (s.apply c).values = c.values := by
  cases s with
  | clock k => rfl
  | value i =>
    exact congrArg Circuit.values (onValue_of_halted h (fun _ ↦ Value.stop_eq_self) i)

variable [Random.Rng ρ]

theorem values_fire (h : c.Halted) (s : SourceId) : (c.fire s).values = c.values := by
  cases hs : c.sources[s]? with
  | none => rw [fire_eq_self hs]
  | some src =>
    have hdrawn : Halted { c with sources := c.sources.setIfInBounds s src.draw.2 } :=
      h.of_values rfl
    rw [fire_eq hs, publish_of_halted hdrawn]

theorem values_tick (h : c.Halted) (k : ClockId) : (c.tick k).values = c.values := by
  rw [tick_eq]
  exact values_foldl (fun _ s hc ↦ values_fire hc s) _ h

theorem values_ticks (h : c.Halted) (n : Nat) (k : ClockId) :
    (c.ticks n k).values = c.values := by
  unfold ticks
  induction n with
  | zero => rfl
  | succ n ih => exact (values_tick (h.of_values ih) k).trans ih

theorem values_pass (h : c.Halted) (since now : Nat) (k : ClockId) :
    (c.pass since now k).values = c.values := by
  unfold pass
  cases c.clocks[k]? with
  | none => rfl
  | some clock => exact values_ticks h _ k

end Circuit

namespace Generator

variable {g : Generator (Circuit ρ)} {ms : List Config.Metric} {clockOf : List ClockId}

section Runs

variable [Random.Rng ρ]

/-- Once all values are stopped, nothing but a reading changes one. -/
theorem values_apply (h : g.circuit.Halted) {a : Action} (ha : ∀ i, a ≠ .read i) :
    (a.apply g).circuit.values = g.circuit.values := by
  cases a with
  | tick clock => exact Circuit.values_tick h clock
  | tickAll => exact Circuit.values_foldl (fun _ k hc ↦ Circuit.values_tick hc k) g.clockList h
  | elapse since now =>
    exact Circuit.values_foldl (fun _ k hc ↦ Circuit.values_pass hc since now k) _ h
  | read i => exact absurd rfl (ha i)
  | peek i => rfl
  | start now =>
    cases now with
    | none => exact congrArg Circuit.values (startClocks_none g.clockList g.circuit)
    | some t =>
      refine (congrArg Circuit.values (startClocks_some t g.clockList g.circuit)).trans ?_
      exact Circuit.values_foldl (fun c k _ ↦ c.values_setStarted _ k) g.clockList h
  | stop =>
    simp only [Action.apply, Generator.stop]
    split_ifs
    · exact Circuit.values_foldl (fun _ s hc ↦ Circuit.values_stop hc s) g.stops h
    · rfl
  | stopValue i =>
    simp only [Action.apply]
    cases g.handles? i with
    | none => rfl
    | some handles => exact Circuit.values_stop h (.value handles.value)

/-- A reading changes the value of its own metric only. -/
theorem Connected.getElem?_values_read (hg : g.Connected ms clockOf) (i j : Nat) :
    ((Action.read i).apply g).circuit.values[j]? =
      if i = j then g.circuit.values[j]?.map Value.afterRead else g.circuit.values[j]? := by
  rw [hg.apply_read]
  exact Array.getElem?_modify

theorem Connected.apply_halted (hg : g.Connected ms clockOf) (h : g.circuit.Halted) (a : Action) :
    (a.apply g).circuit.Halted := by
  by_cases ha : ∃ i, a = .read i
  · obtain ⟨i, rfl⟩ := ha
    intro j v hv
    rw [hg.getElem?_values_read] at hv
    split_ifs at hv
    · obtain ⟨w, hw, rfl⟩ := Option.map_eq_some_iff.mp hv
      exact h j w hw
    · exact h j v hv
  · exact h.of_values (values_apply h fun i hi ↦ ha ⟨i, hi⟩)

theorem Connected.run_halted (hg : g.Connected ms clockOf) (h : g.circuit.Halted)
    (actions : List Action) : (g.run actions).circuit.Halted := by
  unfold Generator.run
  induction actions generalizing g with
  | nil => exact h
  | cons a rest ih =>
    exact ih (hg.apply a) (hg.apply_halted h a)

theorem Connected.stop_halted (hg : g.Connected ms clockOf) (h : g.running = true) :
    g.stop.circuit.Halted := by
  intro i v hv
  have hstop : g.stop.Connected ms clockOf := hg.apply .stop
  rw [← hstop.value?_eq, value?_stop h] at hv
  obtain ⟨w, -, rfl⟩ := Option.map_eq_some_iff.mp hv
  rfl

end Runs

/-! ### Starts that fail -/

theorem startClocks_none_fst (ids : List ClockId) (c : Circuit ρ) :
    (startClocks none ids c).1 =
      if ∃ k ∈ ids, c.isRunning k = false then some .noTime else none := by
  induction ids with
  | nil => simp [startClocks]
  | cons k rest ih =>
    unfold startClocks Circuit.startClock
    cases hk : c.isRunning k with
    | true => simp [ih, hk]
    | false => simp [hk]

theorem startClocks_some_fst (t : Nat) (ids : List ClockId) (c : Circuit ρ) :
    (startClocks (some t) ids c).1 = none := by
  induction ids generalizing c with
  | nil => rfl
  | cons k rest ih =>
    unfold startClocks
    simp only [Circuit.startClock_some]
    exact ih _

/-- A start fails exactly where no time passes and a clock does not run yet. -/
theorem start_fst_eq_some_iff {now : Option Nat} {f : Fault} :
    (g.start now).1 = some f ↔
      f = .noTime ∧ now = none ∧ ∃ k ∈ g.clockList, g.circuit.isRunning k = false := by
  show (startClocks now g.clockList g.circuit).1 = some f ↔ _
  cases now with
  | none =>
    rw [startClocks_none_fst]
    split_ifs with hidle
    · exact ⟨fun h ↦ ⟨(Option.some_inj.mp h).symm, rfl, hidle⟩, fun h ↦ congrArg some h.1.symm⟩
    · exact ⟨fun h ↦ absurd h (by simp), fun h ↦ absurd h.2.2 hidle⟩
  | some t =>
    rw [startClocks_some_fst]
    simp

/-- What a start that fails leaves behind. -/
structure HalfStarted (g g' : Generator (Circuit ρ)) : Prop where
  /-- It counts as running, though nothing else has changed. -/
  marked : g' = { g with running := true }
  clock_stopped : ∀ k ∈ g.clockList, g'.stop.circuit.isRunning k = false
  value_stopped : ∀ i, g'.stop.value? i = (g.value? i).map Value.stop
  /-- A stop brings the generator back to where it was only if there is nothing left to stop. -/
  stop_eq_iff : g'.stop = g ↔
    (∀ i v, g.value? i = some v → v.stopped = true) ∧
      ∀ k ∈ g.clockList, g.circuit.isRunning k = false

theorem foldl_modify_eq_self {α : Type} {f : α → α} {l : List Nat} {xs : Array α}
    (h : ∀ i ∈ l, ∀ a, xs[i]? = some a → f a = a) :
    l.foldl (fun xs j ↦ xs.modify j f) xs = xs := by
  induction l with
  | nil => rfl
  | cons i rest ih =>
    rw [List.foldl_cons, modify_eq_self (h i List.mem_cons_self),
      ih fun j hj ↦ h j (List.mem_cons_of_mem i hj)]

theorem clocks_eq_of_idle (h : ∀ k ∈ g.clockList, g.circuit.isRunning k = false) :
    g.clockList.foldl (fun ks k ↦ ks.modify k Clock.stop) g.circuit.clocks =
      g.circuit.clocks := by
  refine foldl_modify_eq_self fun k hk clock hclock ↦ ?_
  have hstopped : clock.started = none := by
    simpa [Circuit.isRunning, hclock, Clock.isRunning] using h k hk
  rw [Clock.stop, ← hstopped]

theorem values_eq_of_stopped (h : ∀ i v, g.value? i = some v → v.stopped = true) :
    (g.metrics.toList.map (·.value)).foldl (fun vs v ↦ vs.modify v Value.stop) g.circuit.values =
      g.circuit.values := by
  refine foldl_modify_eq_self fun i hi v hv ↦ Value.stop_eq_self ?_
  obtain ⟨handles, hmem, rfl⟩ := List.mem_map.mp hi
  obtain ⟨j, hj⟩ := List.mem_iff_getElem?.mp hmem
  rw [Array.getElem?_toList] at hj
  refine h j v ?_
  rw [value?, handles?, hj]
  exact hv

/-- A stop has no effect on what is stopped already. -/
theorem stop_marked_eq_self (hidle : g.running = false)
    (hvalues : ∀ i v, g.value? i = some v → v.stopped = true)
    (hclocks : ∀ k ∈ g.clockList, g.circuit.isRunning k = false) :
    stop { g with running := true } = g := by
  have hcircuit := stop_circuit (g := { g with running := true }) rfl
  rw [clocks_eq_of_idle hclocks, values_eq_of_stopped hvalues] at hcircuit
  have hstop : stop { g with running := true } =
      { g with running := false, objects := (stop { g with running := true }).circuit } := rfl
  rw [hstop, hcircuit, ← hidle]

/-- A start of an idle generator fails where no time passes and a clock does not run. Then no clock
is started, but the generator counts as running, and a stop takes all values out of service. -/
theorem start_failed {g' : Generator (Circuit ρ)} {now : Option Nat} {f : Fault}
    (hidle : g.running = false) (h : g.start now = (some f, g')) :
    (f = .noTime ∧ now = none ∧ ∃ k ∈ g.clockList, g.circuit.isRunning k = false) ∧
      g.HalfStarted g' := by
  have hfault := start_fst_eq_some_iff.mp (congrArg Prod.fst h)
  obtain rfl := hfault.2.1
  have hmarked : g' = { g with running := true } := by
    have hcircuit : (g.start none).2.circuit = g.circuit := startClocks_none g.clockList g.circuit
    have hstart : (g.start none).2 =
        { g with running := true, objects := (g.start none).2.circuit } := rfl
    rw [hcircuit] at hstart
    rw [← hstart, h]
  subst hmarked
  have hvalue : ∀ i, (stop { g with running := true }).value? i = (g.value? i).map Value.stop :=
    value?_stop (g := { g with running := true }) rfl
  have hclock : ∀ k ∈ g.clockList, (stop { g with running := true }).circuit.isRunning k = false :=
    fun k hk ↦ isRunning_stop (g := { g with running := true }) rfl fun _ ↦ hk
  refine ⟨hfault, rfl, hclock, hvalue, fun hsame ↦ ⟨fun i v hv ↦ ?_, fun k hk ↦ ?_⟩, ?_⟩
  · rw [← hsame, hvalue] at hv
    obtain ⟨w, -, rfl⟩ := Option.map_eq_some_iff.mp hv
    rfl
  · rw [← hsame]
    exact hclock k hk
  · exact fun hstopped ↦ stop_marked_eq_self hidle hstopped.1 hstopped.2

end Generator

/-- Where no time passes, the demonstration cannot be started. It counts as running afterwards, and
a stop takes the values of its metrics out of service. -/
theorem demo_start_fails :
    Demo.document.compile = .ok Demo.config ∧
      ∃ g g' : Generator, Generator.ofConfig (.ofSetting none 7) Demo.config = .ok g ∧
        g.running = false ∧ g.start none = (some .noTime, g') ∧ g'.running = true ∧
          (g.value? 0).map (·.stopped) = some false ∧
          (g'.stop.value? 0).map (·.stopped) = some true :=
  ⟨Demo.compile_document, _, _, by with_unfolding_all rfl, rfl, by with_unfolding_all rfl,
    by with_unfolding_all rfl, by with_unfolding_all rfl, by with_unfolding_all rfl⟩

/-- What the failed start of the demonstration leaves behind. -/
theorem demo_half_started :
    ∃ g g' : Generator, Generator.ofConfig (.ofSetting none 7) Demo.config = .ok g ∧
      g.running = false ∧ g.start none = (some .noTime, g') ∧
        (∃ k ∈ g.clockList, g.circuit.isRunning k = false) ∧ g.HalfStarted g' := by
  have hfails : ∃ g g' : Generator, Generator.ofConfig (.ofSetting none 7) Demo.config = .ok g ∧
      g.running = false ∧ g.start none = (some .noTime, g') :=
    ⟨_, _, by with_unfolding_all rfl, rfl, by with_unfolding_all rfl⟩
  obtain ⟨g, g', hg, hidle, hstart⟩ := hfails
  obtain ⟨⟨-, -, hclock⟩, hhalf⟩ := Generator.start_failed hidle hstart
  exact ⟨g, g', hg, hidle, hstart, hclock, hhalf⟩

namespace Generator

variable {g : Generator (Circuit ρ)} {ms : List Config.Metric} {clockOf : List ClockId}

/-! ### Stops -/

/-- What a stop of a running generator does. -/
structure Halts (g : Generator (Circuit ρ)) : Prop where
  /-- It comes down to single stops, one after the other. -/
  carried_out : g.stop = { g with
    running := false, objects := g.stops.foldl (fun c s ↦ s.apply c) g.circuit }
  clock_once : ∀ k, k < g.circuit.clocks.size → g.stops.count (.clock k) = 1
  clock_lt : ∀ i h, g.handles? i = some h → h.clock < g.circuit.clocks.size
  value_mem : ∀ i h, g.handles? i = some h → .value h.value ∈ g.stops
  /-- Before a value is stopped, all clocks have been stopped. -/
  clocks_first : ∀ done v rest, g.stops = done ++ .value v :: rest →
    (∀ k, k < g.circuit.clocks.size → done.count (.clock k) = 1) ∧
      ∀ k, (done.foldl (fun c s ↦ s.apply c) g.circuit).isRunning k = false
  clock_stopped : ∀ k, g.stop.circuit.isRunning k = false
  value_stopped : ∀ i, g.stop.value? i = (g.value? i).map Value.stop

/-- What comes before a value is all clocks, and some values. -/
theorem eq_of_stops_eq {clocks : List ClockId} {values : List ValueId} {done rest : List Stop}
    {v : ValueId}
    (h : clocks.map Stop.clock ++ values.map Stop.value = done ++ .value v :: rest) :
    ∃ vs : List ValueId, done = clocks.map Stop.clock ++ vs.map Stop.value := by
  obtain ⟨vs, hdone, hvs⟩ | ⟨ks, hclocks, hks⟩ := List.append_eq_append_iff.mp h
  · obtain ⟨vs', -, -, rfl, -⟩ := List.map_eq_append_iff.mp hvs
    exact ⟨vs', hdone⟩
  · cases ks with
    | nil => exact ⟨[], by rw [hclocks, List.append_nil, List.map_nil, List.append_nil]⟩
    | cons s ks =>
      have hmem : s ∈ clocks.map Stop.clock :=
        hclocks ▸ List.mem_append_right done List.mem_cons_self
      obtain ⟨k, -, rfl⟩ := List.mem_map.mp hmem
      rw [List.cons_append] at hks
      exact absurd (List.cons.inj hks).1 (by simp)

theorem count_clock {clocks : List ClockId} (hclocks : clocks.Nodup) {k : ClockId}
    (hk : k ∈ clocks) (values : List ValueId) :
    (clocks.map Stop.clock ++ values.map Stop.value).count (.clock k) = 1 := by
  have hinj : Function.Injective Stop.clock := fun _ _ h ↦ Stop.clock.inj h
  have hvalues : (values.map Stop.value).count (.clock k) = 0 := List.count_eq_zero.mpr (by simp)
  rw [List.count_append, hvalues,
    List.count_eq_one_of_mem (hclocks.map hinj) (List.mem_map_of_mem hk)]

theorem Connected.halts (hg : g.Connected ms clockOf) (h : g.running = true) : g.Halts := by
  have hnodup : g.clockList.Nodup := by
    rw [hg.clockList]
    exact List.nodup_range
  have hmem : ∀ {k}, k < g.circuit.clocks.size → k ∈ g.clockList := by
    intro k hk
    rw [hg.clockList]
    exact List.mem_range.mpr hk
  exact {
    carried_out := stop_eq_foldl h
    clock_once := fun k hk ↦ by
      rw [stops_eq]
      exact count_clock hnodup (hmem hk) _
    clock_lt := fun i handles hi ↦ by
      obtain ⟨m, -, hmetric⟩ := hg.handles hi
      exact hg.wired.clock_lt hmetric.clockOf_source
    value_mem := fun i handles hi ↦ by
      rw [stops_eq]
      refine List.mem_append_right _ (List.mem_map_of_mem (List.mem_map_of_mem ?_))
      exact Array.mem_toList_iff.mpr (Array.mem_of_getElem? hi)
    clocks_first := fun done v rest hstops ↦ by
      rw [stops_eq] at hstops
      obtain ⟨vs, rfl⟩ := eq_of_stops_eq hstops
      exact ⟨fun k hk ↦ count_clock hnodup (hmem hk) vs, fun k ↦ isRunning_foldl_stops hmem vs⟩
    clock_stopped := fun k ↦ isRunning_stop h hmem
    value_stopped := value?_stop h }

variable [Random.Rng ρ]

/-- No value of a generator takes in an update any more. -/
structure Frozen (ms : List Config.Metric) (g : Generator (Circuit ρ)) : Prop where
  ignores : ∀ i v, g.value? i = some v → ∀ x, v.update x = v
  kept : ∀ (i : Nat) (a : Action), a ≠ .read i →
    (a.apply g).value? i = g.value? i ∧ (a.apply g).peek? i = g.peek? i
  /-- A reading that is taken goes to the reset value of its metric, if it has one. -/
  read : ∀ i m, ms[i]? = some m → ∃ spec x, Builder.valueSpec m.value = .ok spec ∧
    g.peek? i = some x ∧ ((Action.read i).apply g).peek? i = some (spec.reset.afterRead x)

theorem Connected.frozen (hg : g.Connected ms clockOf) (h : g.circuit.Halted) :
    g.Frozen ms where
  ignores i v hv := by
    rw [hg.value?_eq] at hv
    exact v.update_of_stopped (h i v hv)
  kept i a ha := by
    -- A reading of another metric changes a value, but not this one. No other action changes any.
    have hvalues : (a.apply g).circuit.values[i]? = g.circuit.values[i]? := by
      by_cases hread : ∃ j, a = .read j
      · obtain ⟨j, rfl⟩ := hread
        have hne : j ≠ i := fun hj ↦ ha (congrArg Action.read hj)
        rw [hg.getElem?_values_read, if_neg hne]
      · rw [values_apply h fun j hj ↦ hread ⟨j, hj⟩]
    have happlied := hg.apply a
    rw [happlied.value?_eq, happlied.peek?_eq, hvalues, hg.value?_eq, hg.peek?_eq]
    exact ⟨rfl, rfl⟩
  read i m hm := by
    obtain ⟨spec, v, g', hspec, hv, hread, hv', -⟩ := hg.read hm
    have hg' : (Action.read i).apply g = g' := by
      rw [Action.apply, hread]
      rfl
    have hpeek' := (hg.apply (.read i)).delivers.peek i
    rw [hg', hv'] at hpeek'
    refine ⟨spec, v.current, hspec, ?_, hg' ▸ hpeek'.1⟩
    rw [(hg.delivers.peek i).1, hv]
    rfl

/-- A stop has an effect on running generators only, and its effect is final. -/
theorem stop_final {seeds : Random.Seeds} {config : Config}
    (h : ofConfig seeds config = .ok g) (before : List Action) :
    ((g.run before).running = false → (g.run before).stop = g.run before) ∧
      ((g.run before).running = true → (g.run before).Halts ∧
        ∀ after, ((g.run before).stop.run after).Frozen config.metrics) := by
  obtain ⟨clockOf, hg⟩ := connected_of_config h
  have hbefore := hg.run before
  constructor
  · intro hidle
    rw [stop, hidle]
    rfl
  · intro hrunning
    refine ⟨hbefore.halts hrunning, fun after ↦ ?_⟩
    have hstopped := hbefore.of_sameBuild (apply_sameBuild .stop (g.run before))
    exact (hstopped.run after).frozen (hstopped.run_halted (hbefore.stop_halted hrunning) after)

end Generator

/-- The demonstration is started and stopped, and whatever is done with it afterwards, its values
stay as they are until they are read. -/
theorem demo_stops :
    ∃ g : Generator, Generator.ofConfig (.ofSetting none 7) Demo.config = .ok g ∧
      (g.run [.start (some 0), .tickAll]).running = true ∧
      (g.run [.start (some 0), .tickAll]).Halts ∧
        ∀ after, ((g.run [.start (some 0), .tickAll]).stop.run after).Frozen
          Demo.config.metrics := by
  obtain ⟨g, hg⟩ := demo_builds (.ofSetting none 7)
  have hrunning : (g.run [.start (some 0), .tickAll]).running = true := rfl
  exact ⟨g, hg, hrunning, (Generator.stop_final hg [.start (some 0), .tickAll]).2 hrunning⟩

end TelemetrySim.Live
