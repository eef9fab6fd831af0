import TelemetrySim.Proofs.Live.Draws
import TelemetrySim.Proofs.Live.Shutdown

/-!
What a value is sent. Whatever makes sources draw is a list of clocks that tick one after the other,
also when time passes (`Circuit.elapse_eq_foldl`), so the numbers that a value is sent can be noted
tick by tick (`Generator.updates`). They are the numbers that its source draws in the run, one for
each tick of the clock of the metric (`Connected.drew_run`), and so from the range of the source
(`Connected.updates_answer`). These numbers are all that ticks do to the value
(`Connected.value?_apply`), and a value without transforms and without a reset shows the last of them
that it took in (`Connected.run_plain`).
-/

set_option autoImplicit false
set_option relaxedAutoImplicit false

namespace TelemetrySim.Live

variable {ρ : Type}

/-- There is one note for each time that `a` occurs, and each of them is as wanted. -/
structure Answers {α β : Type} [DecidableEq α] (Q : β → Prop) (a : α) (notes : List β)
    (l : List α) : Prop where
  length_eq : notes.length = l.count a
  wanted : ∀ x ∈ notes, Q x

/-- What is drawn lies in the range of the source. -/
theorem Source.Drew.answers [Random.Rng ρ] {γ : Type} [DecidableEq γ] {k : γ} {ticks : List γ}
    {sent : List Int64} {src src' : Source ρ} (h : src.Drew k ticks sent src')
    (hle : src.min ≤ src.max) : Answers (fun x ↦ src.min ≤ x ∧ x ≤ src.max) k sent ticks where
  length_eq := by
    rw [h.sent_eq]
    exact Random.Rng.length_numbers _ _
  wanted x hx := by
    rw [h.sent_eq] at hx
    exact Random.Rng.numbers_mem hle hx

/-! ### Blueprints -/

namespace Circuit

variable {c c' : Circuit ρ} {s : SourceId} {k : ClockId} {min max : Int64}

/-- A clock ticks at an interval. -/
def Paced (interval : Duration) (k : ClockId) (c : Circuit ρ) : Prop :=
  c.clocks[k]?.map Clock.interval = some interval

/-- A source draws from a range. -/
def Ranged (min max : Int64) (s : SourceId) (c : Circuit ρ) : Prop :=
  c.sources[s]?.map (fun src ↦ (src.min, src.max)) = some (min, max)

theorem Paced.of_blueprint {interval : Duration} (h : c.Paced interval k)
    (hsame : c'.blueprint = c.blueprint) : c'.Paced interval k := by
  have hread : Clock.interval = Prod.fst ∘ Clock.settled := rfl
  rw [Paced, hread, ← Option.map_map] at h ⊢
  rw [settled_clocks hsame, h]

theorem Ranged.of_blueprint (h : c.Ranged min max s) (hsame : c'.blueprint = c.blueprint) :
    c'.Ranged min max s := by
  have hread : (fun src : Source ρ ↦ (src.min, src.max)) =
      (fun p ↦ (p.1, p.2.1)) ∘ Source.settled := rfl
  rw [Ranged, hread, ← Option.map_map] at h ⊢
  rw [settled_sources hsame, h]

theorem Ranged.exists_source (h : c.Ranged min max s) :
    ∃ src, c.sources[s]? = some src ∧ src.min = min ∧ src.max = max := by
  obtain ⟨src, hsrc, hbounds⟩ := Option.map_eq_some_iff.mp h
  obtain ⟨hmin, hmax⟩ := Prod.mk.inj hbounds
  exact ⟨src, hsrc, hmin, hmax⟩

/-! ### Ticks as time passes -/

/-- How often a clock ticks in some time. -/
def due (since now : Nat) (c : Circuit ρ) (k : ClockId) : Nat :=
  (c.clocks[k]?.map fun clock ↦ dueTicks clock since now).getD 0

variable [Random.Rng ρ]

theorem clocks_fire (s : SourceId) (c : Circuit ρ) : (c.fire s).clocks = c.clocks := by
  cases hs : c.sources[s]? with
  | none => rw [fire_eq_self hs]
  | some src =>
    obtain ⟨-, hclocks, -⟩ := publish_objects src.draw.1 src.listeners
      { c with sources := c.sources.setIfInBounds s src.draw.2 }
    rw [fire_eq hs, hclocks]

theorem clocks_tick (k : ClockId) (c : Circuit ρ) : (c.tick k).clocks = c.clocks := by
  rw [tick_eq]
  generalize c.listeners k = l
  induction l generalizing c with
  | nil => rfl
  | cons s rest ih => exact (ih (c.fire s)).trans (clocks_fire s c)

theorem ticks_eq_foldl (n : Nat) (k : ClockId) (c : Circuit ρ) :
    c.ticks n k = (List.replicate n k).foldl (fun c k ↦ c.tick k) c ∧
      (c.ticks n k).clocks = c.clocks := by
  unfold ticks
  induction n with
  | zero => exact ⟨rfl, rfl⟩
  | succ n ih =>
    obtain ⟨hfoldl, hclocks⟩ := ih
    refine ⟨?_, (clocks_tick k _).trans hclocks⟩
    rw [List.replicate_succ', List.foldl_append, ← hfoldl]
    rfl

theorem pass_eq_foldl (since now : Nat) (c : Circuit ρ) (k : ClockId) :
    c.pass since now k =
        (List.replicate (c.due since now k) k).foldl (fun c k ↦ c.tick k) c ∧
      (c.pass since now k).clocks = c.clocks := by
  unfold pass due
  cases c.clocks[k]? with
  | none => exact ⟨rfl, rfl⟩
  | some clock => exact ticks_eq_foldl (dueTicks clock since now) k c

/-- Ticks leave the clocks as they are, so as much is due later on as was due at first. -/
theorem passes_eq_foldl (since now : Nat) (l : List ClockId) {d : Circuit ρ}
    (hd : d.clocks = c.clocks) : l.foldl (fun c k ↦ c.pass since now k) d =
      (l.flatMap fun k ↦ List.replicate (c.due since now k) k).foldl (fun c k ↦ c.tick k) d := by
  induction l generalizing d with
  | nil => rfl
  | cons k rest ih =>
    obtain ⟨hpass, hclocks⟩ := pass_eq_foldl since now d k
    have hdue : d.due since now k = c.due since now k := by
      unfold due
      rw [hd]
    rw [List.foldl_cons, ih (hclocks.trans hd), hpass, hdue, List.flatMap_cons, List.foldl_append]

/-- When time passes, each clock in turn ticks as often as is due. -/
theorem elapse_eq_foldl (since now : Nat) (c : Circuit ρ) :
    c.elapse since now =
      ((List.range c.clocks.size).flatMap fun k ↦ List.replicate (c.due since now k) k).foldl
        (fun c k ↦ c.tick k) c :=
  passes_eq_foldl since now (List.range c.clocks.size) rfl

end Circuit

/-! ### Actions -/

/-- The clocks that an action makes tick, in that order. -/
def Action.ticks (g : Generator (Circuit ρ)) : Action → List ClockId
  | tick clock => [clock]
  | tickAll => g.clockList
  | elapse since now => (List.range g.circuit.clocks.size).flatMap fun k ↦
      List.replicate (g.circuit.due since now k) k
  | _ => []

variable [Random.Rng ρ]

/-- What a value is sent by an action. -/
def Action.sent (v : ValueId) (g : Generator (Circuit ρ)) (a : Action) : List Int64 :=
  g.circuit.sentByTicks v (a.ticks g)

/-- What a value takes in: what it is sent, unless it is stopped. -/
def Action.taken (v : ValueId) (g : Generator (Circuit ρ)) (a : Action) : List Int64 :=
  if g.circuit.values[v]?.any (·.stopped) then [] else a.sent v g

namespace Generator

/-- All ticks of a run, in that order. -/
def ticks (actions : List Action) (g : Generator (Circuit ρ)) : List ClockId :=
  noted (fun g a ↦ a.apply g) Action.ticks actions g

/-- All that a value is sent in a run. -/
def updates (v : ValueId) (actions : List Action) (g : Generator (Circuit ρ)) : List Int64 :=
  noted (fun g a ↦ a.apply g) (Action.sent v) actions g

/-- All that a value takes in during a run. -/
def taken (v : ValueId) (actions : List Action) (g : Generator (Circuit ρ)) : List Int64 :=
  noted (fun g a ↦ a.apply g) (Action.taken v) actions g

variable {g : Generator (Circuit ρ)} {ms : List Config.Metric} {clockOf : List ClockId}

theorem elapse_eq_foldl (since now : Nat) (g : Generator (Circuit ρ)) :
    (Action.elapse since now).apply g = g.onCircuit fun c ↦
      ((Action.elapse since now).ticks g).foldl (fun c k ↦ c.tick k) c :=
  congrArg (fun c ↦ { g with objects := c }) (g.circuit.elapse_eq_foldl since now)

section Connected

theorem Connected.drew_of_ticks (hg : g.Connected ms clockOf) {i : Nat} {h : Handles}
    (hi : g.handles? i = some h) {src : Source ρ}
    (hsrc : g.circuit.sources[h.source]? = some src) {a : Action}
    (ha : a.apply g = g.onCircuit fun c ↦ (a.ticks g).foldl (fun c k ↦ c.tick k) c) :
    ∃ src', (a.apply g).circuit.sources[h.source]? = some src' ∧
      src.Drew h.clock (a.ticks g) (a.sent h.value g) src' := by
  obtain ⟨m, -, hmetric⟩ := hg.handles hi
  have hv : (g.metrics.toList.map (·.source))[h.value]? = some h.source := by
    rw [hmetric.value_eq]
    exact getElem?_sources hi
  rw [ha]
  exact Circuit.drew_ticks hg.wired hv hmetric.clockOf_source hsrc (a.ticks g)

/-- A source draws one number for each tick of its clock, and sends it to the values of its
metrics. -/
theorem Connected.drew_apply (hg : g.Connected ms clockOf) {i : Nat} {h : Handles}
    (hi : g.handles? i = some h) {src : Source ρ}
    (hsrc : g.circuit.sources[h.source]? = some src) (a : Action) :
    ∃ src', (a.apply g).circuit.sources[h.source]? = some src' ∧
      src.Drew h.clock (a.ticks g) (a.sent h.value g) src' := by
  have hkept : (a.apply g).circuit.sources = g.circuit.sources → a.ticks g = [] →
      ∃ src', (a.apply g).circuit.sources[h.source]? = some src' ∧
        src.Drew h.clock (a.ticks g) (a.sent h.value g) src' := by
    intro hsame hticks
    rw [hsame, Action.sent, hticks]
    exact ⟨src, hsrc, .nothing h.clock src⟩
  cases a with
  | tick clock => exact hg.drew_of_ticks hi hsrc rfl
  | tickAll => exact hg.drew_of_ticks hi hsrc rfl
  | elapse since now => exact hg.drew_of_ticks hi hsrc (elapse_eq_foldl since now g)
  | peek j => exact hkept rfl rfl
  | start now => exact hkept (startClocks_objects now g.clockList g.circuit).1 rfl
  | read j =>
    refine hkept ?_ rfl
    rw [hg.apply_read]
    rfl
  | stopValue j =>
    refine hkept ?_ rfl
    rw [hg.apply_stopValue]
    rfl
  | stop =>
    refine hkept ?_ rfl
    by_cases hrunning : g.running = true
    · show g.stop.circuit.sources = g.circuit.sources
      rw [stop_circuit hrunning]
    · exact congrArg (fun g : Generator (Circuit ρ) ↦ g.circuit.sources) (if_neg hrunning)

/-- The numbers that a source draws in a run are those that the values of its metrics are sent. -/
theorem Connected.drew_run (hg : g.Connected ms clockOf) {i : Nat} {h : Handles}
    (hi : g.handles? i = some h) {src : Source ρ}
    (hsrc : g.circuit.sources[h.source]? = some src) (actions : List Action) :
    ∃ src', (g.run actions).circuit.sources[h.source]? = some src' ∧
      src.Drew h.clock (g.ticks actions) (g.updates h.value actions) src' := by
  refine noted_drew (I := fun d : Generator (Circuit ρ) ↦ g.SameBuild d)
    (p := fun d ↦ d.circuit.sources[h.source]?) (fun d a hd ↦ hd.trans (apply_sameBuild a d))
    (fun d a src hd hs ↦ ?_) actions ⟨rfl, rfl, rfl⟩ hsrc
  have hi' : d.handles? i = some h := by
    rw [handles?, hd.metrics]
    exact hi
  exact (hg.of_sameBuild hd).drew_apply hi' hs a

/-- In a run, a value is sent one number for each tick of the clock of its metric, from the range of
its source. -/
theorem Connected.updates_answer (hg : g.Connected ms clockOf) {i : Nat} {h : Handles}
    (hi : g.handles? i = some h) {min max : Int64} (hrange : g.circuit.Ranged min max h.source)
    (hle : min ≤ max) (actions : List Action) :
    Answers (fun x ↦ min ≤ x ∧ x ≤ max) h.clock (g.updates h.value actions) (g.ticks actions) := by
  obtain ⟨src, hsrc, rfl, rfl⟩ := hrange.exists_source
  obtain ⟨src', -, hdrew⟩ := hg.drew_run hi hsrc actions
  exact hdrew.answers hle

theorem Connected.value?_of_ticks (hg : g.Connected ms clockOf) {i : Nat} {v : Value}
    (hv : g.value? i = some v) {a : Action}
    (ha : a.apply g = g.onCircuit fun c ↦ (a.ticks g).foldl (fun c k ↦ c.tick k) c) :
    (a.apply g).value? i = some ((a.sent i g).foldl Value.update v) := by
  rw [(hg.apply a).value?_eq, ha]
  rw [hg.value?_eq] at hv
  exact Circuit.value_ticks hg.wired (a.ticks g) hv

/-- An action sends numbers to a value, takes its reading or stops it. -/
theorem Connected.value?_apply (hg : g.Connected ms clockOf) {i : Nat} {v : Value}
    (hv : g.value? i = some v) (a : Action) :
    (a.apply g).value? i = some ((a.sent i g).foldl Value.update v) ∨ a.sent i g = [] ∧
      ((a.apply g).value? i = some v.afterRead ∨
        (a = .stop ∨ a = .stopValue i) ∧ (a.apply g).value? i = some v.stop) := by
  have happly := (hg.apply a).value?_eq i
  have hvalue := hv
  rw [hg.value?_eq] at hvalue
  cases a with
  | tick clock => exact .inl (hg.value?_of_ticks hv rfl)
  | tickAll => exact .inl (hg.value?_of_ticks hv rfl)
  | elapse since now => exact .inl (hg.value?_of_ticks hv (elapse_eq_foldl since now g))
  | peek j => exact .inl hv
  | start now =>
    have hsame : ((Action.start now).apply g).circuit.values = g.circuit.values :=
      (startClocks_objects now g.clockList g.circuit).2
    rw [happly, hsame, hvalue]
    exact .inl rfl
  | read j =>
    rw [happly, hg.getElem?_values_read, hvalue]
    split_ifs
    · exact .inr ⟨rfl, .inl rfl⟩
    · exact .inl rfl
  | stopValue j =>
    have hstops : ((Action.stopValue j).apply g).circuit.values[i]? =
        if j = i then g.circuit.values[i]?.map Value.stop else g.circuit.values[i]? := by
      rw [hg.apply_stopValue]
      exact Array.getElem?_modify
    rw [happly, hstops, hvalue]
    split_ifs with hj
    · exact .inr ⟨rfl, .inr ⟨.inr (congrArg Action.stopValue hj), rfl⟩⟩
    · exact .inl rfl
  | stop =>
    by_cases hrunning : g.running = true
    · have hstopped : ((Action.stop).apply g).value? i = some v.stop := by
        rw [Action.apply, value?_stop hrunning, hv]
        rfl
      exact .inr ⟨rfl, .inr ⟨.inl rfl, hstopped⟩⟩
    · have hsame : (Action.stop).apply g = g := if_neg hrunning
      rw [hsame]
      exact .inl hv

end Connected

end Generator

/-! ### Readings -/

namespace Value

variable {v : Value}

/-- A value that shows what it was sent last, and keeps it when it is read. -/
def Plain (v : Value) : Prop := v.spec = ⟨[], .never⟩

theorem Plain.update_eq (hv : v.Plain) (h : v.stopped = false) (x : Int64) :
    v.update x = { v with current := x } := by
  have htransforms : v.transforms = [] := congrArg ValueSpec.transforms hv
  rw [Value.update_eq, h, htransforms]
  rfl

theorem Plain.afterRead_eq (hv : v.Plain) : v.afterRead = v := by
  have hreset : v.reset = .never := congrArg ValueSpec.reset hv
  have hkept : v.reset.afterRead v.current = v.current := by
    rw [hreset]
    rfl
  rw [Value.afterRead, hkept]

theorem stopped_foldl_update (l : List Int64) (v : Value) :
    (l.foldl update v).stopped = v.stopped := by
  induction l generalizing v with
  | nil => rfl
  | cons x rest ih =>
    rw [List.foldl_cons, ih, Value.update_eq]

theorem foldl_update_of_stopped (h : v.stopped = true) (l : List Int64) :
    l.foldl update v = v := by
  induction l with
  | nil => rfl
  | cons x rest ih => rw [List.foldl_cons, update_of_stopped h, ih]

theorem Plain.foldl_update (hv : v.Plain) (h : v.stopped = false) (l : List Int64) :
    l.foldl update v = { v with current := l.getLastD v.current } := by
  induction l generalizing v with
  | nil => rfl
  | cons x rest ih =>
    have hnext : ({ v with current := x } : Value).Plain := hv
    rw [List.foldl_cons, hv.update_eq h, ih hnext h, List.getLastD_cons]

end Value

namespace Generator

section Readings

variable {g : Generator (Circuit ρ)} {ms : List Config.Metric} {clockOf : List ClockId} {i : Nat}
  {v : Value}

theorem Connected.taken_eq (hg : g.Connected ms clockOf) (hv : g.value? i = some v) (a : Action) :
    a.taken i g = if v.stopped then [] else a.sent i g := by
  rw [hg.value?_eq] at hv
  rw [Action.taken, hv, Option.any_some]

theorem Connected.apply_plain (hg : g.Connected ms clockOf) (hv : g.value? i = some v)
    (hplain : v.Plain) (a : Action) :
    ∃ w, (a.apply g).value? i = some w ∧ w.Plain ∧
      w.current = (a.taken i g).getLastD v.current := by
  rw [hg.taken_eq hv]
  rcases hg.value?_apply hv a with hsent | ⟨hnothing, hread | ⟨-, hstop⟩⟩
  · refine ⟨_, hsent, ?_⟩
    cases hstopped : v.stopped with
    | true =>
      rw [Value.foldl_update_of_stopped hstopped]
      exact ⟨hplain, rfl⟩
    | false =>
      rw [hplain.foldl_update hstopped]
      exact ⟨hplain, rfl⟩
  · rw [hplain.afterRead_eq] at hread
    rw [hnothing, ite_self]
    exact ⟨v, hread, hplain, rfl⟩
  · rw [hnothing, ite_self]
    exact ⟨v.stop, hstop, hplain, rfl⟩

/-- A plain value shows the number that it took in last, however a generator is used. -/
theorem Connected.run_plain (hg : g.Connected ms clockOf) (hv : g.value? i = some v)
    (hplain : v.Plain) (actions : List Action) :
    ∃ w, (g.run actions).value? i = some w ∧
      w.current = (g.taken i actions).getLastD v.current := by
  induction actions generalizing g v with
  | nil => exact ⟨v, hv, rfl⟩
  | cons a rest ih =>
    obtain ⟨next, hnext, hplain', hcurrent⟩ := hg.apply_plain hv hplain a
    obtain ⟨w, hw, hlast⟩ := ih (hg.apply a) hnext hplain'
    refine ⟨w, hw, ?_⟩
    have htaken : g.taken i (a :: rest) = a.taken i g ++ (a.apply g).taken i rest := rfl
    rw [hlast, hcurrent, htaken]
    simp only [List.getLastD_eq_getLast?, List.getLast?_append, Option.getD_or]

theorem taken_sublist (i : Nat) (actions : List Action) (g : Generator (Circuit ρ)) :
    (g.taken i actions).Sublist (g.updates i actions) := by
  induction actions generalizing g with
  | nil => exact .slnil
  | cons a rest ih =>
    have hfirst : (a.taken i g).Sublist (a.sent i g) := by
      unfold Action.taken
      split_ifs
      · exact List.nil_sublist _
      · exact .refl _
    exact hfirst.append (ih (a.apply g))

/-- Only stopping it, or everything, stops a value, and nothing undoes it. -/
theorem Connected.stopped_apply (hg : g.Connected ms clockOf) (hv : g.value? i = some v)
    (a : Action) : ∃ w, (a.apply g).value? i = some w ∧
      (w.stopped = v.stopped ∨ (a = .stop ∨ a = .stopValue i) ∧ w.stopped = true) := by
  rcases hg.value?_apply hv a with hsent | ⟨-, hread | ⟨hstops, hstopped⟩⟩
  · exact ⟨_, hsent, .inl (Value.stopped_foldl_update _ v)⟩
  · exact ⟨_, hread, .inl rfl⟩
  · exact ⟨_, hstopped, .inr ⟨hstops, rfl⟩⟩

theorem Connected.stopped_run (hg : g.Connected ms clockOf) (hv : g.value? i = some v)
    (hstopped : v.stopped = true) (actions : List Action) :
    ∃ w, (g.run actions).value? i = some w ∧ w.stopped = true := by
  induction actions generalizing g v with
  | nil => exact ⟨v, hv, hstopped⟩
  | cons a rest ih =>
    obtain ⟨w, hw, hsame | ⟨-, hstill⟩⟩ := hg.stopped_apply hv a
    · exact ih (hg.apply a) hw (hsame.trans hstopped)
    · exact ih (hg.apply a) hw hstill

theorem Connected.running_run (hg : g.Connected ms clockOf) (hv : g.value? i = some v)
    (hrunning : v.stopped = false) {actions : List Action}
    (hactions : ∀ a ∈ actions, a ≠ .stop ∧ a ≠ .stopValue i) :
    ∃ w, (g.run actions).value? i = some w ∧ w.stopped = false := by
  induction actions generalizing g v with
  | nil => exact ⟨v, hv, hrunning⟩
  | cons a rest ih =>
    obtain ⟨⟨hstop, hstopValue⟩, hrest⟩ := List.forall_mem_cons.mp hactions
    obtain ⟨w, hw, hsame | ⟨hstops, -⟩⟩ := hg.stopped_apply hv a
    · exact ih (hg.apply a) hw (hsame.trans hrunning) hrest
    · exact absurd hstops (not_or.mpr ⟨hstop, hstopValue⟩)

/-- A value that is not stopped in the end has taken in all that it was sent. -/
theorem Connected.taken_eq_updates (hg : g.Connected ms clockOf) {actions : List Action} {w : Value}
    (hw : (g.run actions).value? i = some w) (hrunning : w.stopped = false) :
    g.taken i actions = g.updates i actions := by
  induction actions generalizing g with
  | nil => rfl
  | cons a rest ih =>
    have hrest := ih (hg.apply a) hw
    have hfirst : a.taken i g = a.sent i g := by
      cases hv : g.value? i with
      | none =>
        rw [hg.value?_eq] at hv
        rw [Action.taken, hv]
        rfl
      | some v =>
        rw [hg.taken_eq hv, if_neg]
        intro hstopped
        obtain ⟨w', hw', hstill⟩ := hg.stopped_run hv hstopped (a :: rest)
        obtain rfl := Option.some_inj.mp (hw.symm.trans hw')
        rw [hrunning] at hstill
        simp at hstill
    exact congrArg₂ (· ++ ·) hfirst hrest

end Readings

end Generator

end TelemetrySim.Live
