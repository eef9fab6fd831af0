import TelemetrySim.Proofs.Live.KnownKinds
import TelemetrySim.Proofs.Live.Run

/-!
Ticks are delivered once. A tick reaches the sources that listen to the clock, a draw the values that
listen to the source, and because nothing listens twice or to two objects, each of them is reached
exactly once (`Circuit.Fired`). So every metric is an automaton of its own: it moves by the draws of
its source and by its own readings, whatever is done with the others, and this is so in every state
that a generator can get into (`Generator.run_delivers`).
-/

set_option autoImplicit false
set_option relaxedAutoImplicit false

namespace TelemetrySim.Live

variable {ρ : Type}

/-! ### Draws -/

namespace Circuit

/-- A number reaches each of the listeners once, and nothing else. -/
theorem getElem?_publish (x : Int64) {listeners : List ValueId} (hnodup : listeners.Nodup)
    (c : Circuit ρ) (v : ValueId) : (c.publish x listeners).values[v]? =
      if v ∈ listeners then c.values[v]?.map (·.update x) else c.values[v]? := by
  unfold publish
  induction listeners generalizing c with
  | nil => simp
  | cons id rest ih =>
    obtain ⟨hid, hrest⟩ := List.nodup_cons.mp hnodup
    rw [List.foldl_cons, ih hrest]
    unfold onValue
    rw [Array.getElem?_modify]
    by_cases hv : id = v
    · subst hv
      rw [if_neg hid, if_pos rfl, if_pos List.mem_cons_self]
    · have hmem : v ∈ id :: rest ↔ v ∈ rest := by
        rw [List.mem_cons]
        exact ⟨fun h ↦ h.resolve_left (Ne.symm hv), .inr⟩
      rw [if_neg hv, if_congr hmem rfl rfl]

section Fired

variable [Random.Rng ρ]

/-- Exactly the sources of a list have drawn, each of them once, and exactly the values behind them
have been sent the number drawn. -/
structure Fired (sourceOf : List SourceId) (drawing : List SourceId) (c c' : Circuit ρ) : Prop where
  clocks : c'.clocks = c.clocks
  drawn : ∀ s ∈ drawing, ∀ src, c.sources[s]? = some src → c'.sources[s]? = some src.draw.2
  undrawn : ∀ s, s ∉ drawing → c'.sources[s]? = c.sources[s]?
  updated : ∀ s ∈ drawing, ∀ src, c.sources[s]? = some src → ∀ v : ValueId, sourceOf[v]? = some s →
    c'.values[v]? = c.values[v]?.map (·.update src.draw.1)
  kept : ∀ s, s ∉ drawing → ∀ v : ValueId, sourceOf[v]? = some s → c'.values[v]? = c.values[v]?

variable {c c' c'' : Circuit ρ} {clockOf : List ClockId} {sourceOf : List SourceId}

theorem Fired.nil (sourceOf : List SourceId) (c : Circuit ρ) : Fired sourceOf [] c c where
  clocks := rfl
  drawn := by simp
  undrawn _ _ := rfl
  updated := by simp
  kept _ _ _ _ := rfl

/-- Draws of different sources do not get in each other's way. -/
theorem Fired.append {l l' : List SourceId} (h : Fired sourceOf l c c')
    (h' : Fired sourceOf l' c' c'') (hdisjoint : l.Disjoint l') :
    Fired sourceOf (l ++ l') c c'' where
  clocks := h'.clocks.trans h.clocks
  drawn s hs src hsrc := by
    rcases List.mem_append.mp hs with hs | hs
    · rw [h'.undrawn s (hdisjoint hs)]
      exact h.drawn s hs src hsrc
    · rw [← h.undrawn s fun hs' ↦ hdisjoint hs' hs] at hsrc
      exact h'.drawn s hs src hsrc
  undrawn s hs := by
    obtain ⟨hleft, hright⟩ := not_or.mp fun hmem ↦ hs (List.mem_append.mpr hmem)
    rw [h'.undrawn s hright, h.undrawn s hleft]
  updated s hs src hsrc v hv := by
    rcases List.mem_append.mp hs with hs | hs
    · rw [h'.kept s (hdisjoint hs) v hv]
      exact h.updated s hs src hsrc v hv
    · have hleft : s ∉ l := fun hs' ↦ hdisjoint hs' hs
      rw [← h.undrawn s hleft] at hsrc
      rw [h'.updated s hs src hsrc v hv, h.kept s hleft v hv]
  kept s hs v hv := by
    obtain ⟨hleft, hright⟩ := not_or.mp fun hmem ↦ hs (List.mem_append.mpr hmem)
    rw [h'.kept s hright v hv, h.kept s hleft v hv]

/-- A source that does not exist draws nothing. -/
theorem Fired.missing {s : SourceId} (hs : c.sources[s]? = none) : Fired sourceOf [s] c c where
  clocks := rfl
  drawn t ht src hsrc := by
    rw [List.mem_singleton.mp ht, hs] at hsrc
    simp at hsrc
  undrawn _ _ := rfl
  updated t ht src hsrc := by
    rw [List.mem_singleton.mp ht, hs] at hsrc
    simp at hsrc
  kept _ _ _ _ := rfl

theorem Fired.published {s : SourceId} {src : Source ρ} (hs : c.sources[s]? = some src)
    (hlistens : Listens sourceOf s src.listeners) : Fired sourceOf [s] c
      (publish src.draw.1 src.listeners
        { c with sources := c.sources.setIfInBounds s src.draw.2 }) := by
  have hlt : s < c.sources.size := (Array.getElem?_eq_some_iff.mp hs).1
  obtain ⟨-, hclocks, hsources⟩ := publish_objects src.draw.1 src.listeners
    { c with sources := c.sources.setIfInBounds s src.draw.2 }
  have hvalues := getElem?_publish src.draw.1 hlistens.nodup
    { c with sources := c.sources.setIfInBounds s src.draw.2 }
  constructor
  · exact hclocks
  · intro t ht src' hsrc'
    obtain rfl := List.mem_singleton.mp ht
    obtain rfl : src = src' := Option.some_inj.mp (hs.symm.trans hsrc')
    rw [hsources, Array.getElem?_setIfInBounds_self_of_lt hlt]
  · intro t ht
    have hne : s ≠ t := fun h ↦ ht (by rw [h]; exact List.mem_singleton_self t)
    rw [hsources, Array.getElem?_setIfInBounds_ne hne]
  · intro t ht src' hsrc' v hv
    obtain rfl := List.mem_singleton.mp ht
    obtain rfl : src = src' := Option.some_inj.mp (hs.symm.trans hsrc')
    rw [hvalues, if_pos ((hlistens.mem_iff v).mpr hv)]
  · intro t ht v hv
    have hnot : v ∉ src.listeners := by
      intro hmem
      have hsame : t = s := Option.some_inj.mp (hv.symm.trans ((hlistens.mem_iff v).mp hmem))
      exact ht (by rw [hsame]; exact List.mem_singleton_self s)
    rw [hvalues, if_neg hnot]

theorem fire_fired (hc : c.Wired clockOf sourceOf) (s : SourceId) :
    Fired sourceOf [s] c (c.fire s) := by
  cases hs : c.sources[s]? with
  | none =>
    rw [fire_eq_self hs]
    exact .missing hs
  | some src =>
    rw [fire_eq hs]
    exact .published hs (hc.attends_of hs)

theorem fires_fired {l : List SourceId} (hnodup : l.Nodup) (hc : c.Wired clockOf sourceOf) :
    Fired sourceOf l c (l.foldl (fun c s ↦ c.fire s) c) := by
  induction l generalizing c with
  | nil => exact .nil sourceOf c
  | cons s rest ih =>
    obtain ⟨hs, hrest⟩ := List.nodup_cons.mp hnodup
    have hfirst : Fired sourceOf [s] c (c.fire s) := fire_fired hc s
    have hothers := ih hrest (hc.of_blueprint (blueprint_fire s c))
    exact hfirst.append hothers (List.singleton_disjoint.mpr hs)

/-! ### Ticks -/

theorem tick_eq (k : ClockId) (c : Circuit ρ) :
    c.tick k = (c.listeners k).foldl (fun c s ↦ c.fire s) c := by
  unfold tick listeners
  cases c.clocks[k]? with
  | none => rfl
  | some clock => rfl

theorem tick_fired (hc : c.Wired clockOf sourceOf) (k : ClockId) :
    Fired sourceOf (c.listeners k) c (c.tick k) := by
  rw [tick_eq]
  exact fires_fired (hc.listens k).nodup hc

/-- Ticks of different clocks reach different sources. -/
theorem ticks_fired {ks : List ClockId} (hnodup : ks.Nodup) (hc : c.Wired clockOf sourceOf) :
    Fired sourceOf (ks.flatMap c.listeners) c (ks.foldl (fun c k ↦ c.tick k) c) := by
  induction ks generalizing c with
  | nil => exact .nil sourceOf c
  | cons k rest ih =>
    obtain ⟨hk, hrest⟩ := List.nodup_cons.mp hnodup
    have hblueprint := blueprint_tick k c
    have hothers := ih hrest (hc.of_blueprint hblueprint)
    have hsame : (c.tick k).listeners = c.listeners := funext (listeners_eq hblueprint)
    rw [hsame] at hothers
    refine (tick_fired hc k).append hothers fun s hs hs' ↦ ?_
    obtain ⟨k', hk', hlistens⟩ := List.mem_flatMap.mp hs'
    have hclock : clockOf[s]? = some k := ((hc.listens k).mem_iff s).mp hs
    have hclock' : clockOf[s]? = some k' := ((hc.listens k').mem_iff s).mp hlistens
    obtain rfl : k = k' := Option.some_inj.mp (hclock.symm.trans hclock')
    exact hk hk'

end Fired

end Circuit

/-! ### Metrics -/

theorem Value.update_eq (v : Value) (x : Int64) : v.update x =
    { v with current := if v.stopped then v.current else combine v.transforms v.current x } := by
  unfold Value.update
  split_ifs
  · rfl
  · rfl

namespace Generator

/-- The value behind a metric. -/
def value? (metric : Nat) (g : Generator (Circuit ρ)) : Option Value :=
  (g.handles? metric).bind fun h ↦ g.circuit.values[h.value]?

section Connected

variable {g : Generator (Circuit ρ)} {ms : List Config.Metric} {clockOf : List ClockId}

theorem Connected.handles (hg : g.Connected ms clockOf) {i : Nat} {h : Handles}
    (hi : g.handles? i = some h) : ∃ m, ms[i]? = some m ∧
      MetricConnected clockOf g.circuit.values i m h := by
  obtain ⟨hlt, -⟩ := Array.getElem?_eq_some_iff.mp hi
  rw [hg.size] at hlt
  exact ⟨ms[i], List.getElem?_eq_getElem hlt, hg.metric i _ h (List.getElem?_eq_getElem hlt) hi⟩

/-- A metric has the value of its own number, also after the circuit has changed. -/
theorem Connected.value?_onCircuit (hg : g.Connected ms clockOf) (f : Circuit ρ → Circuit ρ)
    {i : Nat} {h : Handles} (hi : g.handles? i = some h) :
    (g.onCircuit f).value? i = (f g.circuit).values[i]? := by
  obtain ⟨m, -, hmetric⟩ := hg.handles hi
  show (g.handles? i).bind (fun h ↦ (f g.circuit).values[h.value]?) = _
  rw [hi, Option.bind_some, hmetric.value_eq]

theorem Connected.values_size (hg : g.Connected ms clockOf) :
    g.circuit.values.size = g.metrics.size := by
  rw [hg.wired.values_size, List.length_map, Array.length_toList]

theorem Connected.value?_eq (hg : g.Connected ms clockOf) (i : Nat) :
    g.value? i = g.circuit.values[i]? := by
  cases hi : g.handles? i with
  | some h => exact hg.value?_onCircuit id hi
  | none =>
    have hout : g.circuit.values.size ≤ i := by
      rw [hg.values_size]
      exact Array.getElem?_eq_none_iff.mp hi
    rw [value?, hi, Array.getElem?_eq_none hout]
    rfl

/-- The reading of a metric is that of the value of the same number. -/
theorem Connected.read?_eq (hg : g.Connected ms clockOf) (i : Nat) :
    g.read? i = g.circuit.values[i]?.map fun v ↦
      (v.peek, g.onCircuit fun c ↦ c.onValue Value.afterRead i) := by
  cases hi : g.handles? i with
  | some h =>
    obtain ⟨m, -, hmetric⟩ := hg.handles hi
    rw [Generator.read?_eq hi, hmetric.value_eq]
  | none =>
    have hvalue : g.value? i = none := by
      rw [value?, hi]
      rfl
    rw [← hg.value?_eq i, hvalue, read?, hi]
    rfl

theorem getElem?_sources {i : Nat} {h : Handles} (hi : g.handles? i = some h) :
    (g.metrics.toList.map (·.source))[i]? = some h.source := by
  rw [List.getElem?_map, Array.getElem?_toList, ← handles?, hi]
  rfl

theorem Connected.mem_listeners_iff (hg : g.Connected ms clockOf) {i : Nat} {h : Handles}
    (hi : g.handles? i = some h) (k : ClockId) :
    h.source ∈ g.circuit.listeners k ↔ k = h.clock := by
  obtain ⟨m, -, hmetric⟩ := hg.handles hi
  rw [(hg.wired.listens k).mem_iff, hmetric.clockOf_source, Option.some_inj]
  exact eq_comm

theorem peek?_eq (i : Nat) (g : Generator (Circuit ρ)) :
    g.peek? i = (g.value? i).map (·.current) := by
  rw [peek?, value?, Option.map_bind]
  rfl

theorem Connected.read (hg : g.Connected ms clockOf) {i : Nat} {m : Config.Metric}
    (hm : ms[i]? = some m) :
    ∃ spec v g', Builder.valueSpec m.value = .ok spec ∧ g.value? i = some v ∧
      g.read? i = some (v.current, g') ∧
      g'.value? i = some { v with current := spec.reset.afterRead v.current } ∧
      (∀ j, j ≠ i → g'.value? j = g.value? j) ∧
      g'.circuit.clocks = g.circuit.clocks ∧ g'.circuit.sources = g.circuit.sources := by
  obtain ⟨hlt, -⟩ := List.getElem?_eq_some_iff.mp hm
  rw [← hg.size] at hlt
  have hi : g.handles? i = some g.metrics[i] := Array.getElem?_eq_getElem hlt
  obtain ⟨-, -, v, hv, hspec⟩ := hg.metric i m _ hm hi
  have hread : g.read? i = some (v.current, g.onCircuit (·.onValue Value.afterRead i)) := by
    rw [hg.read?_eq, hv]
    rfl
  refine ⟨v.spec, v, _, hspec, (hg.value?_eq i).trans hv, hread, ?_, fun j hj ↦ ?_, rfl, rfl⟩
  · rw [hg.value?_onCircuit _ hi, Circuit.onValue, Array.getElem?_modify, if_pos rfl, hv]
    rfl
  · cases hother : g.handles? j with
    | none =>
      show (g.handles? j).bind _ = (g.handles? j).bind _
      rw [hother]
      rfl
    | some h =>
      rw [hg.value?_onCircuit _ hother, hg.value?_eq j, Circuit.onValue,
        Array.getElem?_modify, if_neg (Ne.symm hj)]

variable [Random.Rng ρ]

/-- From one state to the next, each of some clocks has ticked once. -/
structure Ticked (ms : List Config.Metric) (ticking : ClockId → Prop)
    (g g' : Generator (Circuit ρ)) : Prop where
  /-- Every source that listens to one of the clocks has drawn exactly one number from its range. -/
  drawn : ∀ k s, ticking k → s ∈ g.circuit.listeners k →
    ∃ src, g.circuit.sources[s]? = some src ∧ g'.circuit.sources[s]? = some { src with
      stream := (Random.Rng.between src.min src.max src.stream).2
      latest := some (Random.Rng.between src.min src.max src.stream).1 }
  undrawn : ∀ s : SourceId, (∀ k, ticking k → s ∉ g.circuit.listeners k) →
    g'.circuit.sources[s]? = g.circuit.sources[s]?
  /-- Every metric of one of the clocks has taken in that number, unless it is stopped. -/
  updated : ∀ i m h, ms[i]? = some m → g.handles? i = some h → ticking h.clock →
    ∃ spec src v, Builder.valueSpec m.value = .ok spec ∧ g.circuit.sources[h.source]? = some src ∧
      g.value? i = some v ∧ g'.value? i = some { v with
        current := if v.stopped then v.current else combine spec.transforms v.current
          (Random.Rng.between src.min src.max src.stream).1 }
  kept : ∀ i h, g.handles? i = some h → ¬ ticking h.clock → g'.value? i = g.value? i

/-- The metrics of a generator are automata on their own, each of which is driven by the draws of its
source and by nothing else. -/
structure Delivers (ms : List Config.Metric) (g : Generator (Circuit ρ)) : Prop where
  /-- Every source listens to one clock, which is the clock of all metrics that have the source. -/
  subscribed : ∀ s, s < g.circuit.sources.size → ∃ k, ∀ k', s ∈ g.circuit.listeners k' ↔ k' = k
  listens : ∀ i h, g.handles? i = some h → h.source ∈ g.circuit.listeners h.clock
  tick : ∀ k, g.Ticked ms (· = k) (g.tick k)
  tickAll : g.Ticked ms (fun _ ↦ True) g.tickAll
  read : ∀ i m, ms[i]? = some m →
    ∃ spec v g', Builder.valueSpec m.value = .ok spec ∧ g.value? i = some v ∧
      g.read? i = some (v.current, g') ∧
      g'.value? i = some { v with current := spec.reset.afterRead v.current } ∧
      (∀ j, j ≠ i → g'.value? j = g.value? j) ∧
      g'.circuit.clocks = g.circuit.clocks ∧ g'.circuit.sources = g.circuit.sources
  peek : ∀ i, g.peek? i = (g.value? i).map (·.current) ∧ (Action.peek i).apply g = g

/-- What is drawn by the sources of some clocks is a tick of these clocks. -/
theorem Connected.ticked (hg : g.Connected ms clockOf) {ticking : ClockId → Prop}
    {drawing : List SourceId} {f : Circuit ρ → Circuit ρ}
    (hdrawing : ∀ s, s ∈ drawing ↔ ∃ k, ticking k ∧ s ∈ g.circuit.listeners k)
    (hfired : Circuit.Fired (g.metrics.toList.map (·.source)) drawing g.circuit (f g.circuit)) :
    g.Ticked ms ticking (g.onCircuit f) := by
  have hmem : ∀ i h, g.handles? i = some h → (h.source ∈ drawing ↔ ticking h.clock) := by
    intro i h hi
    rw [hdrawing]
    constructor
    · rintro ⟨k, hk, hlistens⟩
      rwa [(hg.mem_listeners_iff hi k).mp hlistens] at hk
    · exact fun hk ↦ ⟨h.clock, hk, (hg.mem_listeners_iff hi h.clock).mpr rfl⟩
  constructor
  · intro k s hk hs
    have hlt := hg.wired.source_lt (((hg.wired.listens k).mem_iff s).mp hs)
    have hsrc := Array.getElem?_eq_getElem hlt
    exact ⟨_, hsrc, hfired.drawn s ((hdrawing s).mpr ⟨k, hk, hs⟩) _ hsrc⟩
  · intro s hs
    refine hfired.undrawn s fun hmem ↦ ?_
    obtain ⟨k, hk, hlistens⟩ := (hdrawing s).mp hmem
    exact hs k hk hlistens
  · intro i m h hm hi hk
    obtain ⟨m', hm', hmetric⟩ := hg.handles hi
    obtain rfl : m' = m := Option.some_inj.mp (hm'.symm.trans hm)
    obtain ⟨v, hv, hspec⟩ := hmetric.declared
    have hsrc := Array.getElem?_eq_getElem (hg.wired.source_lt hmetric.clockOf_source)
    refine ⟨v.spec, _, v, hspec, hsrc, (hg.value?_eq i).trans hv, ?_⟩
    rw [hg.value?_onCircuit f hi,
      hfired.updated h.source ((hmem i h hi).mpr hk) _ hsrc i (getElem?_sources hi), hv]
    exact congrArg some (v.update_eq _)
  · intro i h hi hk
    rw [hg.value?_onCircuit f hi, hg.value?_eq i]
    exact hfired.kept h.source (fun hs ↦ hk ((hmem i h hi).mp hs)) i (getElem?_sources hi)

theorem Connected.tick (hg : g.Connected ms clockOf) (k : ClockId) :
    g.Ticked ms (· = k) (g.tick k) := by
  refine hg.ticked (fun s ↦ ?_) (Circuit.tick_fired hg.wired k)
  constructor
  · exact fun hs ↦ ⟨k, rfl, hs⟩
  · rintro ⟨k', rfl, hs⟩
    exact hs

theorem Connected.tickAll (hg : g.Connected ms clockOf) :
    g.Ticked ms (fun _ ↦ True) g.tickAll := by
  have hnodup : g.clockList.Nodup := by
    rw [hg.clockList]
    exact List.nodup_range
  refine hg.ticked (fun s ↦ ?_) (Circuit.ticks_fired hnodup hg.wired)
  rw [List.mem_flatMap]
  constructor
  · rintro ⟨k, -, hs⟩
    exact ⟨k, trivial, hs⟩
  · rintro ⟨k, -, hs⟩
    refine ⟨k, ?_, hs⟩
    rw [hg.clockList, List.mem_range]
    exact hg.wired.clock_lt (((hg.wired.listens k).mem_iff s).mp hs)

theorem Connected.delivers (hg : g.Connected ms clockOf) : g.Delivers ms where
  subscribed s hs := by
    rw [hg.wired.sources_size] at hs
    refine ⟨clockOf[s], fun k ↦ ?_⟩
    rw [(hg.wired.listens k).mem_iff, List.getElem?_eq_getElem hs, Option.some_inj]
    exact eq_comm
  listens i h hi := (hg.mem_listeners_iff hi h.clock).mpr rfl
  tick := hg.tick
  tickAll := hg.tickAll
  read i m hm := hg.read hm
  peek i := ⟨peek?_eq i g, rfl⟩

/-- However a generator has been used, whatever configuration it was built from, ticks are delivered
once and metrics are kept apart. -/
theorem run_delivers {seeds : Random.Seeds} {config : Config} {g : Generator (Circuit ρ)}
    (h : Generator.ofConfig seeds config = .ok g) (actions : List Action) :
    (g.run actions).Delivers config.metrics := by
  obtain ⟨clockOf, hg⟩ := connected_of_config h
  exact (hg.run actions).delivers

end Connected

end Generator

/-- The generator of the demonstration delivers ticks once, also with some of its values stopped. -/
theorem demo_delivers :
    ∃ g : Generator, Generator.ofConfig (.ofSetting none 7) Demo.config = .ok g ∧
      (g.run [.tickAll, .read 0, .tick 1, .stopValue 1, .peek 2, .tick 0]).Delivers
        Demo.config.metrics := by
  obtain ⟨g, hg⟩ := demo_builds (.ofSetting none 7)
  exact ⟨g, hg, Generator.run_delivers hg _⟩

end TelemetrySim.Live
