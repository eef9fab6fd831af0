import Mathlib.Logic.Relation
import Mathlib.Tactic.SplitIfs
import TelemetrySim.Proofs.Live.Wiring

/-!
Runs of a generator. There are four ways to move a circuit (`Circuit.Move`), and whatever is done
with a generator comes down to such moves (`Generator.run_moves`). No move changes the blueprint of
a circuit: who listens to whom, what sources draw from, and what values do with what they are sent.
So all that follows from the blueprint stays, in particular that the circuit is wired up as the
handles of the metrics say (`Generator.Connected.run`).
-/

set_option autoImplicit false
set_option relaxedAutoImplicit false

namespace TelemetrySim.Live

variable {ρ : Type}

/-! ### Moves -/

theorem modify_eq_self {α : Type} {f : α → α} {xs : Array α} {i : Nat}
    (h : ∀ a, xs[i]? = some a → f a = a) : xs.modify i f = xs := by
  refine Array.ext_getElem? fun j ↦ ?_
  rw [Array.getElem?_modify]
  split_ifs with hij
  · subst hij
    cases hi : xs[i]? with
    | none => rfl
    | some a => rw [Option.map_some, h a hi]
  · rfl

namespace Circuit

/-- Changes whether, and since when, a clock runs. -/
def setStarted (f : Option Nat → Option Nat) (id : ClockId) (c : Circuit ρ) : Circuit ρ :=
  { c with clocks := c.clocks.modify id fun k ↦ { k with started := f k.started } }

/-- What is sent to values changes values only. -/
theorem publish_objects (x : Int64) (listeners : List ValueId) (c : Circuit ρ) :
    (c.publish x listeners).seeds = c.seeds ∧ (c.publish x listeners).clocks = c.clocks ∧
      (c.publish x listeners).sources = c.sources := by
  unfold publish
  induction listeners generalizing c with
  | nil => exact ⟨rfl, rfl, rfl⟩
  | cons id rest ih => exact ih (c.onValue (·.update x) id)

/-- Where time passes, a clock that does not run starts now. -/
theorem startClock_some (t : Nat) (id : ClockId) (c : Circuit ρ) :
    c.startClock (some t) id = .ok (c.setStarted (·.or (some t)) id) := by
  unfold startClock setStarted
  cases hrunning : c.isRunning id with
  | true =>
    have hsame : c.clocks.modify id (fun k ↦ { k with started := k.started.or (some t) }) =
        c.clocks := by
      refine modify_eq_self fun k hk ↦ ?_
      obtain ⟨since, hsince⟩ : ∃ since, k.started = some since := by
        simpa [isRunning, hk, Clock.isRunning, Option.isSome_iff_exists] using hrunning
      rw [hsince, Option.some_or, ← hsince]
    rw [hsame, if_pos rfl]
  | false =>
    have hstarts : c.clocks.modify id (fun k ↦ { k with started := some t }) =
        c.clocks.modify id fun k ↦ { k with started := k.started.or (some t) } := by
      refine Array.ext_getElem? fun i ↦ ?_
      rw [Array.getElem?_modify, Array.getElem?_modify]
      split_ifs with hi
      · subst hi
        cases hk : c.clocks[id]? with
        | none => rfl
        | some k =>
          have hstill : k.started = none := by
            simpa [isRunning, hk, Clock.isRunning] using hrunning
          rw [Option.map_some, Option.map_some, hstill, Option.none_or]
      · rfl
    rw [← hstarts]
    rfl

section Moves

variable [Random.Rng ρ]

theorem fire_eq_self {c : Circuit ρ} {id : SourceId} (h : c.sources[id]? = none) :
    c.fire id = c := by
  unfold fire
  rw [h]

theorem fire_eq {c : Circuit ρ} {id : SourceId} {s : Source ρ} (h : c.sources[id]? = some s) :
    c.fire id = publish s.draw.1 s.listeners
      { c with sources := c.sources.setIfInBounds id s.draw.2 } := by
  unfold fire
  rw [h]

/-- What a single move does: a source draws, a reading is taken, a value is stopped, or a clock is
started or stopped. -/
inductive Move : Circuit ρ → Circuit ρ → Prop
  | fire (s : SourceId) (c : Circuit ρ) : Move c (c.fire s)
  | read (v : ValueId) (c : Circuit ρ) : Move c (c.onValue Value.afterRead v)
  | stop (v : ValueId) (c : Circuit ρ) : Move c (c.stopValue v)
  | setStarted (f : Option Nat → Option Nat) (k : ClockId) (c : Circuit ρ) :
    Move c (c.setStarted f k)

/-- One move after the other. -/
abbrev Moves : Circuit ρ → Circuit ρ → Prop := Relation.ReflTransGen Move

theorem moves_foldl {α : Type} {f : Circuit ρ → α → Circuit ρ} (hf : ∀ c a, Moves c (f c a))
    (l : List α) (c : Circuit ρ) : Moves c (l.foldl f c) := by
  induction l generalizing c with
  | nil => exact .refl
  | cons a rest ih => exact (hf c a).trans (ih (f c a))

theorem tick_moves (id : ClockId) (c : Circuit ρ) : Moves c (c.tick id) := by
  unfold tick
  cases c.clocks[id]? with
  | none => exact .refl
  | some k => exact moves_foldl (fun c s ↦ .single (.fire s c)) k.listeners c

theorem ticks_moves (n : Nat) (id : ClockId) (c : Circuit ρ) : Moves c (c.ticks n id) := by
  unfold ticks
  induction n with
  | zero => exact .refl
  | succ n ih => exact ih.trans (tick_moves id _)

/-- A clock ticks as often as is due in some time. -/
def pass (since now : Nat) (c : Circuit ρ) (id : ClockId) : Circuit ρ :=
  match c.clocks[id]? with
  | none => c
  | some k => c.ticks (dueTicks k since now) id

theorem pass_moves (since now : Nat) (c : Circuit ρ) (id : ClockId) :
    Moves c (c.pass since now id) := by
  unfold pass
  cases c.clocks[id]? with
  | none => exact .refl
  | some k => exact ticks_moves _ id c

end Moves

end Circuit

/-! ### Blueprints -/

/-- What is settled about a circuit once it is built. -/
structure Blueprint where
  clocks : Array (Duration × List SourceId)
  sources : Array (Int64 × Int64 × List ValueId)
  values : Array ValueSpec

def Clock.settled (k : Clock) : Duration × List SourceId := (k.interval, k.listeners)

def Source.settled (s : Source ρ) : Int64 × Int64 × List ValueId := (s.min, s.max, s.listeners)

theorem map_modify_of_eq {α β : Type} {f : α → α} {g : α → β} (hf : ∀ a, g (f a) = g a)
    (xs : Array α) (i : Nat) : (xs.modify i f).map g = xs.map g := by
  ext j hj hj'
  · rw [Array.size_map, Array.size_map, Array.size_modify]
  · rw [Array.getElem_map, Array.getElem_map, Array.getElem_modify]
    split_ifs
    · exact hf _
    · rfl

namespace Circuit

def blueprint (c : Circuit ρ) : Blueprint where
  clocks := c.clocks.map Clock.settled
  sources := c.sources.map Source.settled
  values := c.values.map Value.spec

theorem blueprint_onValue {f : Value → Value} (hf : ∀ v, (f v).spec = v.spec) (id : ValueId)
    (c : Circuit ρ) : (c.onValue f id).blueprint = c.blueprint := by
  unfold blueprint onValue
  rw [map_modify_of_eq hf]

theorem spec_update (x : Int64) (v : Value) : (v.update x).spec = v.spec := by
  unfold Value.update
  split_ifs
  · rfl
  · rfl

theorem blueprint_publish (x : Int64) (listeners : List ValueId) (c : Circuit ρ) :
    (c.publish x listeners).blueprint = c.blueprint := by
  unfold publish
  induction listeners generalizing c with
  | nil => rfl
  | cons id rest ih => rw [List.foldl_cons, ih, blueprint_onValue (spec_update x)]

/-- Whether and since when a clock runs is not part of the blueprint. -/
theorem blueprint_setStarted (f : Option Nat → Option Nat) (id : ClockId) (c : Circuit ρ) :
    (c.setStarted f id).blueprint = c.blueprint := by
  have hsettled : ∀ k : Clock, ({ k with started := f k.started } : Clock).settled = k.settled :=
    fun _ ↦ rfl
  unfold blueprint setStarted
  rw [map_modify_of_eq hsettled]

section Moves

variable [Random.Rng ρ]

theorem blueprint_fire (id : SourceId) (c : Circuit ρ) : (c.fire id).blueprint = c.blueprint := by
  cases hs : c.sources[id]? with
  | none => rw [fire_eq_self hs]
  | some s =>
    rw [fire_eq hs, blueprint_publish]
    obtain ⟨hlt, rfl⟩ := Array.getElem?_eq_some_iff.mp hs
    unfold blueprint
    congr 1
    ext j hj hj'
    · simp
    all_goals
      rw [Array.getElem_map, Array.getElem_map, Array.getElem_setIfInBounds]
      split_ifs with h
      · subst h
        rfl
      · rfl

theorem Move.blueprint_eq {c c' : Circuit ρ} (h : Move c c') : c'.blueprint = c.blueprint := by
  have hread : ∀ v : Value, v.afterRead.spec = v.spec := fun _ ↦ rfl
  have hstop : ∀ v : Value, v.stop.spec = v.spec := fun _ ↦ rfl
  cases h with
  | fire s => exact blueprint_fire s c
  | read v => exact blueprint_onValue hread v c
  | stop v => exact blueprint_onValue hstop v c
  | setStarted f k => exact blueprint_setStarted f k c

theorem blueprint_of_moves {c c' : Circuit ρ} (h : Moves c c') : c'.blueprint = c.blueprint := by
  induction h with
  | refl => rfl
  | tail _ hmove ih => rw [hmove.blueprint_eq, ih]

theorem blueprint_tick (id : ClockId) (c : Circuit ρ) : (c.tick id).blueprint = c.blueprint :=
  blueprint_of_moves (tick_moves id c)

end Moves

/-! ### What a blueprint tells -/

variable {c c' : Circuit ρ}

theorem settled_clocks (h : c'.blueprint = c.blueprint) (k : ClockId) :
    c'.clocks[k]?.map Clock.settled = c.clocks[k]?.map Clock.settled := by
  have hclocks : (c'.clocks.map Clock.settled)[k]? = (c.clocks.map Clock.settled)[k]? :=
    congrArg (fun b : Blueprint ↦ b.clocks[k]?) h
  rwa [Array.getElem?_map, Array.getElem?_map] at hclocks

theorem settled_sources (h : c'.blueprint = c.blueprint) (s : SourceId) :
    c'.sources[s]?.map Source.settled = c.sources[s]?.map Source.settled := by
  have hsources : (c'.sources.map Source.settled)[s]? = (c.sources.map Source.settled)[s]? :=
    congrArg (fun b : Blueprint ↦ b.sources[s]?) h
  rwa [Array.getElem?_map, Array.getElem?_map] at hsources

theorem listeners_eq (h : c'.blueprint = c.blueprint) (k : ClockId) :
    c'.listeners k = c.listeners k := by
  have hread : Clock.listeners = Prod.snd ∘ Clock.settled := rfl
  rw [listeners, listeners, hread, ← Option.map_map, ← Option.map_map, settled_clocks h]

theorem audience_eq (h : c'.blueprint = c.blueprint) (s : SourceId) :
    c'.audience s = c.audience s := by
  have hread : @Source.listeners ρ = (fun p ↦ p.2.2) ∘ Source.settled := rfl
  rw [audience, audience, hread, ← Option.map_map, ← Option.map_map, settled_sources h]

theorem clocks_size_eq (h : c'.blueprint = c.blueprint) : c'.clocks.size = c.clocks.size := by
  simpa [blueprint] using congrArg (fun b : Blueprint ↦ b.clocks.size) h

theorem Wired.of_blueprint {clockOf : List ClockId} {sourceOf : List SourceId}
    (hc : c.Wired clockOf sourceOf) (h : c'.blueprint = c.blueprint) :
    c'.Wired clockOf sourceOf where
  sources_size := by
    rw [← hc.sources_size]
    simpa [blueprint] using congrArg (fun b : Blueprint ↦ b.sources.size) h
  values_size := by
    rw [← hc.values_size]
    simpa [blueprint] using congrArg (fun b : Blueprint ↦ b.values.size) h
  listens k := by rw [listeners_eq h]; exact hc.listens k
  attends s := by rw [audience_eq h]; exact hc.attends s

end Circuit

/-! ### Actions -/

/-- What can be done with a generator. -/
inductive Action where
  | tick (clock : ClockId)
  | tickAll
  | elapse (since now : Nat)
  | read (metric : Nat)
  | peek (metric : Nat)
  | start (now : Option Nat)
  | stop
  | stopValue (metric : Nat)

def Action.apply [Random.Rng ρ] : Action → Generator (Circuit ρ) → Generator (Circuit ρ)
  | tick clock, g => g.tick clock
  | tickAll, g => g.tickAll
  | elapse since now, g => g.elapse since now
  | read metric, g => ((g.read? metric).map Prod.snd).getD g
  | peek _, g => g
  | start now, g => (g.start now).2
  | stop, g => g.stop
  | stopValue metric, g =>
    match g.handles? metric with
    | none => g
    | some h => g.onCircuit fun c ↦ c.stopValue h.value

namespace Generator

/-- The second generator is built as the first one is. -/
structure SameBuild (g g' : Generator (Circuit ρ)) : Prop where
  metrics : g'.metrics = g.metrics
  clockList : g'.clockList = g.clockList
  blueprint : g'.circuit.blueprint = g.circuit.blueprint

theorem SameBuild.trans {g g' g'' : Generator (Circuit ρ)} (h : g.SameBuild g')
    (h' : g'.SameBuild g'') : g.SameBuild g'' :=
  ⟨h'.metrics.trans h.metrics, h'.clockList.trans h.clockList, h'.blueprint.trans h.blueprint⟩

theorem startClocks_none (ids : List ClockId) (c : Circuit ρ) : (startClocks none ids c).2 = c := by
  induction ids with
  | nil => rfl
  | cons id rest ih =>
    unfold startClocks Circuit.startClock
    cases hrunning : c.isRunning id with
    | true => exact ih
    | false => rfl

theorem startClocks_some (t : Nat) (ids : List ClockId) (c : Circuit ρ) :
    (startClocks (some t) ids c).2 =
      ids.foldl (fun c id ↦ c.setStarted (·.or (some t)) id) c := by
  induction ids generalizing c with
  | nil => rfl
  | cons id rest ih =>
    unfold startClocks
    simp only [Circuit.startClock_some]
    exact ih _

theorem startClocks_objects (now : Option Nat) (ids : List ClockId) (c : Circuit ρ) :
    (startClocks now ids c).2.sources = c.sources ∧
      (startClocks now ids c).2.values = c.values := by
  cases now with
  | none =>
    rw [startClocks_none]
    exact ⟨rfl, rfl⟩
  | some t =>
    rw [startClocks_some]
    induction ids generalizing c with
    | nil => exact ⟨rfl, rfl⟩
    | cons id rest ih => exact ih (c.setStarted (·.or (some t)) id)

/-- The reading of a metric is that of its value. -/
theorem read?_eq {metric : Nat} {g : Generator (Circuit ρ)} {h : Handles}
    (hh : g.handles? metric = some h) :
    g.read? metric = (g.circuit.values[h.value]?).map fun v ↦
      (v.peek, g.onCircuit fun c ↦ c.onValue Value.afterRead h.value) := by
  rw [read?, hh, Option.bind_some, readValue, Circuit.read?, Option.map_map]
  rfl

theorem Connected.of_sameBuild {g g' : Generator (Circuit ρ)} {ms : List Config.Metric}
    {clockOf : List ClockId} (hg : g.Connected ms clockOf) (h : g.SameBuild g') :
    g'.Connected ms clockOf where
  wired := by
    rw [h.metrics]
    exact hg.wired.of_blueprint h.blueprint
  clockList := by rw [h.clockList, hg.clockList, Circuit.clocks_size_eq h.blueprint]
  size := by rw [h.metrics, hg.size]
  metric i m handles hm hhandles := by
    rw [handles?, h.metrics] at hhandles
    obtain ⟨hvalue, hclock, v, hv, hspec⟩ := hg.metric i m handles hm hhandles
    refine ⟨hvalue, hclock, ?_⟩
    have hvalues : (g'.circuit.values.map Value.spec)[i]? = (g.circuit.values.map Value.spec)[i]? :=
      congrArg (fun b : Blueprint ↦ b.values[i]?) h.blueprint
    rw [Array.getElem?_map, Array.getElem?_map, hv] at hvalues
    obtain ⟨v', hv', hsame⟩ := Option.map_eq_some_iff.mp hvalues
    exact ⟨v', hv', by rw [hsame]; exact hspec⟩

/-! ### Runs -/

section Runs

variable [Random.Rng ρ]

/-- One action after the other. -/
def run (actions : List Action) (g : Generator (Circuit ρ)) : Generator (Circuit ρ) :=
  actions.foldl (fun g a ↦ a.apply g) g

theorem startClocks_moves (now : Option Nat) (ids : List ClockId) (c : Circuit ρ) :
    Circuit.Moves c (startClocks now ids c).2 := by
  cases now with
  | none =>
    rw [startClocks_none]
  | some t =>
    rw [startClocks_some]
    exact Circuit.moves_foldl (fun c id ↦ .single (.setStarted _ id c)) ids c

theorem stop_moves (s : Stop) (c : Circuit ρ) : Circuit.Moves c (s.apply c) := by
  cases s with
  | clock id => exact .single (.setStarted (fun _ ↦ none) id c)
  | value id => exact .single (.stop id c)

/-- Every action comes down to moves of the circuit, and leaves the handles as they are. -/
theorem apply_moves (a : Action) (g : Generator (Circuit ρ)) :
    Circuit.Moves g.circuit (a.apply g).circuit ∧ (a.apply g).metrics = g.metrics ∧
      (a.apply g).clockList = g.clockList := by
  cases a with
  | tick clock => exact ⟨Circuit.tick_moves clock g.circuit, rfl, rfl⟩
  | tickAll =>
    exact ⟨Circuit.moves_foldl (fun c id ↦ c.tick_moves id) g.clockList g.circuit, rfl, rfl⟩
  | elapse since now =>
    exact ⟨Circuit.moves_foldl (fun c id ↦ c.pass_moves since now id) _ g.circuit, rfl, rfl⟩
  | read metric =>
    simp only [Action.apply]
    cases hh : g.handles? metric with
    | none =>
      rw [read?, hh]
      exact ⟨.refl, rfl, rfl⟩
    | some h =>
      rw [read?_eq hh]
      cases g.circuit.values[h.value]? with
      | none => exact ⟨.refl, rfl, rfl⟩
      | some v => exact ⟨.single (.read h.value g.circuit), rfl, rfl⟩
  | peek metric => exact ⟨.refl, rfl, rfl⟩
  | start now => exact ⟨startClocks_moves now g.clockList g.circuit, rfl, rfl⟩
  | stop =>
    simp only [Action.apply, Generator.stop]
    split_ifs
    · exact ⟨Circuit.moves_foldl (fun c s ↦ stop_moves s c) g.stops g.circuit, rfl, rfl⟩
    · exact ⟨.refl, rfl, rfl⟩
  | stopValue metric =>
    simp only [Action.apply]
    cases g.handles? metric with
    | none => exact ⟨.refl, rfl, rfl⟩
    | some h => exact ⟨.single (.stop h.value g.circuit), rfl, rfl⟩

theorem run_moves (actions : List Action) (g : Generator (Circuit ρ)) :
    Circuit.Moves g.circuit (g.run actions).circuit ∧ (g.run actions).metrics = g.metrics ∧
      (g.run actions).clockList = g.clockList := by
  unfold run
  induction actions generalizing g with
  | nil => exact ⟨.refl, rfl, rfl⟩
  | cons a rest ih =>
    obtain ⟨hfirst, hmetrics, hclocks⟩ := apply_moves a g
    obtain ⟨hrest, hmetrics', hclocks'⟩ := ih (a.apply g)
    exact ⟨hfirst.trans hrest, hmetrics'.trans hmetrics, hclocks'.trans hclocks⟩

/-- No action changes what was built. -/
theorem apply_sameBuild (a : Action) (g : Generator (Circuit ρ)) : g.SameBuild (a.apply g) := by
  obtain ⟨hmoves, hmetrics, hclocks⟩ := apply_moves a g
  exact ⟨hmetrics, hclocks, Circuit.blueprint_of_moves hmoves⟩

theorem run_sameBuild (actions : List Action) (g : Generator (Circuit ρ)) :
    g.SameBuild (g.run actions) := by
  obtain ⟨hmoves, hmetrics, hclocks⟩ := run_moves actions g
  exact ⟨hmetrics, hclocks, Circuit.blueprint_of_moves hmoves⟩

variable {g : Generator (Circuit ρ)} {ms : List Config.Metric} {clockOf : List ClockId}

theorem Connected.apply (hg : g.Connected ms clockOf) (a : Action) :
    (a.apply g).Connected ms clockOf :=
  hg.of_sameBuild (apply_sameBuild a g)

/-- However a generator is used, it stays connected. -/
theorem Connected.run (hg : g.Connected ms clockOf) (actions : List Action) :
    (g.run actions).Connected ms clockOf :=
  hg.of_sameBuild (run_sameBuild actions g)

end Runs

end Generator

end TelemetrySim.Live
