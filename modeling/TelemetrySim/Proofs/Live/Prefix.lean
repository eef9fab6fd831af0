import Mathlib.Data.List.Induction
import TelemetrySim.Proofs.Live.Delivery
import TelemetrySim.Proofs.Live.Streams

/-!
Circuits that are the beginning of larger ones (`Circuit.Embeds`). The objects of the smaller
circuit are there in the larger one under the same numbers and in the same state; only more sources
may listen to the clocks, and more values to the sources. A tick makes the same earlier sources draw
the same numbers in both, and these reach the same earlier values (`Embeds.tick`). So the smaller
circuit stays the beginning of the larger one, also when something is done with all clocks or all
values of each in turn (`Embeds.foldl_range`).
-/

set_option autoImplicit false
set_option relaxedAutoImplicit false

namespace TelemetrySim.Live

variable {ρ : Type}

open Outcome

/-! ### Arrays -/

section Leads

variable {α β : Type} {f : α → β} {g : α → α} {xs ys zs : Array α} {i : Nat}

/-- One array is the beginning of another, as far as `f` can tell. -/
def Leads (f : α → β) (xs ys : Array α) : Prop := ∀ i, i < xs.size → ys[i]?.map f = xs[i]?.map f

theorem Leads.refl (f : α → β) (xs : Array α) : Leads f xs xs := fun _ _ ↦ rfl

theorem Leads.exists_getElem? (h : Leads f xs ys) {a : α} (ha : xs[i]? = some a) :
    ∃ b, ys[i]? = some b ∧ f b = f a := by
  have hsame := h i (Array.getElem?_eq_some_iff.mp ha).1
  rw [ha, Option.map_some] at hsame
  exact Option.map_eq_some_iff.mp hsame

theorem Leads.size_le (h : Leads f xs ys) : xs.size ≤ ys.size := by
  by_contra hlt
  obtain ⟨b, hb, -⟩ := h.exists_getElem? (Array.getElem?_eq_getElem (Nat.not_le.mp hlt))
  rw [Array.getElem?_eq_none (Nat.le_refl _)] at hb
  simp at hb

theorem Leads.trans (h : Leads f xs ys) (h' : Leads f ys zs) : Leads f xs zs := by
  intro i hi
  rw [h' i (Nat.lt_of_lt_of_le hi h.size_le), h i hi]

theorem Leads.push (f : α → β) (xs : Array α) (a : α) : Leads f xs (xs.push a) := by
  intro i hi
  rw [Array.getElem?_push_lt hi, Array.getElem?_eq_getElem hi]

theorem Leads.modify (hg : ∀ a, f (g a) = f a) (xs : Array α) (i : Nat) :
    Leads f xs (xs.modify i g) := by
  intro j _
  rw [Array.getElem?_modify]
  split_ifs
  · rw [Option.map_map]
    exact congrArg (Option.map · xs[j]?) (funext hg)
  · rfl

theorem Leads.modify_both (hg : ∀ a b, f a = f b → f (g a) = f (g b)) (h : Leads f xs ys)
    (i : Nat) : Leads f (xs.modify i g) (ys.modify i g) := by
  intro j hj
  rw [Array.size_modify] at hj
  rw [Array.getElem?_modify, Array.getElem?_modify]
  split_ifs
  · obtain ⟨b, hb, hsame⟩ := h.exists_getElem? (Array.getElem?_eq_getElem hj)
    rw [hb, Array.getElem?_eq_getElem hj]
    exact congrArg some (hg b _ hsame)
  · exact h j hj

end Leads

/-! ### Circuits -/

/-- When a clock ticks. -/
def Clock.pace (k : Clock) : Duration × Option Nat := (k.interval, k.started)

/-- What a source has drawn last, and all that it will draw. -/
def Source.supply (s : Source ρ) : Int64 × Int64 × ρ × Option Int64 :=
  (s.min, s.max, s.stream, s.latest)

theorem Source.draw_of_supply [Random.Rng ρ] {s s' : Source ρ} (h : s.supply = s'.supply) :
    s.draw.1 = s'.draw.1 ∧ s.draw.2.supply = s'.draw.2.supply := by
  obtain ⟨min, max, stream, latest, listeners⟩ := s
  obtain ⟨min', max', stream', latest', listeners'⟩ := s'
  obtain ⟨rfl, rfl, rfl, rfl⟩ : min = min' ∧ max = max' ∧ stream = stream' ∧ latest = latest' := by
    simpa [supply] using h
  exact ⟨rfl, rfl⟩

namespace Circuit

variable {c c' c'' d d' : Circuit ρ}

/-- One circuit is the beginning of another, but for who listens. -/
structure Agrees (c c' : Circuit ρ) : Prop where
  clocks : Leads Clock.pace c.clocks c'.clocks
  sources : Leads Source.supply c.sources c'.sources
  values : Leads id c.values c'.values

theorem Agrees.refl (c : Circuit ρ) : Agrees c c := ⟨.refl _ _, .refl _ _, .refl _ _⟩

theorem Agrees.trans (h : Agrees c c') (h' : Agrees c' c'') : Agrees c c'' :=
  ⟨h.clocks.trans h'.clocks, h.sources.trans h'.sources, h.values.trans h'.values⟩

theorem Agrees.onValue (h : c.Agrees c') (f : Value → Value) (v : ValueId) :
    (c.onValue f v).Agrees (c'.onValue f v) := by
  refine ⟨h.clocks, h.sources, h.values.modify_both ?_ v⟩
  intro a b hab
  exact congrArg f hab

/-- One circuit is the beginning of another, and its sources and values are made for the same clocks
and sources there. -/
structure Embeds (clockOf clockOf' : List ClockId) (sourceOf sourceOf' : List SourceId)
    (c c' : Circuit ρ) : Prop where
  clockOf_prefix : clockOf <+: clockOf'
  sourceOf_prefix : sourceOf <+: sourceOf'
  fed : ∀ s ∈ sourceOf, s < clockOf.length
  wired : c.Wired clockOf sourceOf
  wired' : c'.Wired clockOf' sourceOf'
  agrees : c.Agrees c'

variable {clockOf clockOf' : List ClockId} {sourceOf sourceOf' : List SourceId}

/-- Of the sources of the smaller circuit the same ones listen to a clock in both. -/
theorem Embeds.mem_listeners_iff (h : Embeds clockOf clockOf' sourceOf sourceOf' c c')
    {s : SourceId} (hs : s < c.sources.size) (k : ClockId) :
    s ∈ c'.listeners k ↔ s ∈ c.listeners k := by
  rw [h.wired.sources_size] at hs
  have hof : clockOf[s]? = some clockOf[s] := List.getElem?_eq_getElem hs
  have hof' : clockOf'[s]? = some clockOf[s] := getElem?_of_prefix h.clockOf_prefix hof
  rw [(h.wired'.listens k).mem_iff, (h.wired.listens k).mem_iff, hof, hof']

theorem Embeds.exists_source (h : Embeds clockOf clockOf' sourceOf sourceOf' c c') {s : SourceId}
    (hs : s < c.sources.size) : ∃ src src', c.sources[s]? = some src ∧ c'.sources[s]? = some src' ∧
      src'.supply = src.supply := by
  have hsrc := Array.getElem?_eq_getElem hs
  obtain ⟨src', hsrc', hsupply⟩ := h.agrees.sources.exists_getElem? hsrc
  exact ⟨_, src', hsrc, hsrc', hsupply⟩

/-! ### Objects that are not there -/

theorem setStarted_eq_self {k : ClockId} (h : c.clocks.size ≤ k) (f : Option Nat → Option Nat) :
    c.setStarted f k = c := by
  unfold Circuit.setStarted
  rw [modify_eq_self fun a ha ↦ ?_]
  rw [Array.getElem?_eq_none h] at ha
  simp at ha

theorem stopValue_eq_self {v : ValueId} (h : c.values.size ≤ v) : c.stopValue v = c := by
  unfold Circuit.stopValue Circuit.onValue
  rw [modify_eq_self fun a ha ↦ ?_]
  rw [Array.getElem?_eq_none h] at ha
  simp at ha

/-! ### All objects in turn -/

/-- A step for the object of a number, which leaves a circuit alone that has fewer objects. -/
structure Local (size : Circuit ρ → Nat) (f : Circuit ρ → Nat → Circuit ρ) : Prop where
  size_eq : ∀ c i, size (f c i) = size c
  eq_self : ∀ c i, size c ≤ i → f c i = c

theorem Local.size_foldl {size : Circuit ρ → Nat} {f : Circuit ρ → Nat → Circuit ρ}
    (hf : Local size f) (l : List Nat) (c : Circuit ρ) : size (l.foldl f c) = size c := by
  induction l generalizing c with
  | nil => rfl
  | cons i rest ih => rw [List.foldl_cons, ih, hf.size_eq]

theorem Local.foldl_range {size : Circuit ρ → Nat} {f : Circuit ρ → Nat → Circuit ρ}
    (hf : Local size f) (c : Circuit ρ) {n : Nat} (hn : size c ≤ n) :
    (List.range n).foldl f c = (List.range (size c)).foldl f c := by
  induction hn with
  | refl => rfl
  | @step n hn ih =>
    have hsize : size ((List.range (size c)).foldl f c) ≤ n := by
      rw [hf.size_foldl]
      exact hn
    rw [List.range_succ, List.foldl_append, ih]
    exact hf.eq_self _ n hsize

/-- Steps for all objects of each circuit keep the smaller one the beginning of the larger one. -/
theorem Embeds.foldl_range {size : Circuit ρ → Nat} {f : Circuit ρ → Nat → Circuit ρ}
    (hf : Local size f)
    (hstep : ∀ c c' i, Embeds clockOf clockOf' sourceOf sourceOf' c c' →
      Embeds clockOf clockOf' sourceOf sourceOf' (f c i) (f c' i))
    (h : Embeds clockOf clockOf' sourceOf sourceOf' c c') (hle : size c ≤ size c') :
    Embeds clockOf clockOf' sourceOf sourceOf' ((List.range (size c)).foldl f c)
      ((List.range (size c')).foldl f c') := by
  have hfoldl : ∀ l : List Nat,
      Embeds clockOf clockOf' sourceOf sourceOf' (l.foldl f c) (l.foldl f c') := by
    intro l
    induction l using List.reverseRecOn with
    | nil => exact h
    | append_singleton l i ih =>
      rw [List.foldl_append, List.foldl_append]
      exact hstep _ _ i ih
  rw [← hf.foldl_range c hle]
  exact hfoldl _

/-! ### Moves -/

variable [Random.Rng ρ]

/-- New objects come after those that are there. -/
theorem agrees_of_makes {x y : Nat × Circuit ρ} (h : factory.Makes x y) : x.2.Agrees y.2 := by
  cases h with
  | clock h =>
    obtain ⟨-, rfl⟩ := addClock_ok h
    exact ⟨.push _ _ _, .refl _ _, .refl _ _⟩
  | source h =>
    obtain ⟨-, rfl⟩ := addSource_ok h
    refine ⟨?_, .push _ _ _, .refl _ _⟩
    refine Leads.modify ?_ _ _
    exact fun _ ↦ rfl
  | value h =>
    obtain ⟨-, rfl⟩ := Prod.mk.inj (Except.ok.inj h)
    refine ⟨.refl _ _, ?_, .push _ _ _⟩
    refine Leads.modify ?_ _ _
    exact fun _ ↦ rfl

theorem agrees_of_makesAll {x y : Nat × Circuit ρ} (h : factory.MakesAll x y) : x.2.Agrees y.2 := by
  induction h with
  | refl => exact .refl _
  | tail _ hmakes ih => exact ih.trans (agrees_of_makes hmakes)

theorem Embeds.moved (h : Embeds clockOf clockOf' sourceOf sourceOf' c c') (hc : Moves c d)
    (hc' : Moves c' d') (hagrees : d.Agrees d') :
    Embeds clockOf clockOf' sourceOf sourceOf' d d' :=
  { h with
    wired := h.wired.of_blueprint (blueprint_of_moves hc)
    wired' := h.wired'.of_blueprint (blueprint_of_moves hc')
    agrees := hagrees }

/-- A tick makes the same sources draw in both circuits. -/
theorem Embeds.tick_sources (h : Embeds clockOf clockOf' sourceOf sourceOf' c c') (k : ClockId) :
    Leads Source.supply (c.tick k).sources (c'.tick k).sources := by
  intro s hs
  have hfired := tick_fired h.wired k
  have hfired' := tick_fired h.wired' k
  have hsize : (c.tick k).sources.size = c.sources.size := by
    rw [(h.wired.of_blueprint (blueprint_tick k c)).sources_size, h.wired.sources_size]
  rw [hsize] at hs
  by_cases hdraws : s ∈ c.listeners k
  · have hdraws' := (h.mem_listeners_iff hs k).mpr hdraws
    obtain ⟨src, src', hsrc, hsrc', hsupply⟩ := h.exists_source hs
    rw [hfired.drawn s hdraws src hsrc, hfired'.drawn s hdraws' src' hsrc']
    exact congrArg some (Source.draw_of_supply hsupply).2
  · have hdraws' := mt (h.mem_listeners_iff hs k).mp hdraws
    rw [hfired.undrawn s hdraws, hfired'.undrawn s hdraws']
    exact h.agrees.sources s hs

/-- The same numbers reach the same values. -/
theorem Embeds.tick_values (h : Embeds clockOf clockOf' sourceOf sourceOf' c c') (k : ClockId) :
    Leads id (c.tick k).values (c'.tick k).values := by
  intro v hv
  have hfired := tick_fired h.wired k
  have hfired' := tick_fired h.wired' k
  rw [(h.wired.of_blueprint (blueprint_tick k c)).values_size] at hv
  have hof : sourceOf[v]? = some sourceOf[v] := List.getElem?_eq_getElem hv
  have hof' : sourceOf'[v]? = some sourceOf[v] := getElem?_of_prefix h.sourceOf_prefix hof
  have hs : sourceOf[v] < c.sources.size := by
    rw [h.wired.sources_size]
    exact h.fed _ (List.getElem_mem hv)
  have hvalue : c'.values[v]? = c.values[v]? := by
    rw [← h.wired.values_size] at hv
    simpa using h.agrees.values v hv
  by_cases hdraws : sourceOf[v] ∈ c.listeners k
  · have hdraws' := (h.mem_listeners_iff hs k).mpr hdraws
    obtain ⟨src, src', hsrc, hsrc', hsupply⟩ := h.exists_source hs
    rw [hfired.updated _ hdraws src hsrc v hof, hfired'.updated _ hdraws' src' hsrc' v hof', hvalue,
      (Source.draw_of_supply hsupply).1]
  · have hdraws' := mt (h.mem_listeners_iff hs k).mp hdraws
    rw [hfired.kept _ hdraws v hof, hfired'.kept _ hdraws' v hof', hvalue]

theorem Embeds.tick (h : Embeds clockOf clockOf' sourceOf sourceOf' c c') (k : ClockId) :
    Embeds clockOf clockOf' sourceOf sourceOf' (c.tick k) (c'.tick k) := by
  refine h.moved (tick_moves k c) (tick_moves k c') ⟨?_, h.tick_sources k, h.tick_values k⟩
  rw [(tick_fired h.wired k).clocks, (tick_fired h.wired' k).clocks]
  exact h.agrees.clocks

theorem Embeds.ticks (h : Embeds clockOf clockOf' sourceOf sourceOf' c c') (n : Nat)
    (k : ClockId) : Embeds clockOf clockOf' sourceOf sourceOf' (c.ticks n k) (c'.ticks n k) := by
  unfold Circuit.ticks
  induction n with
  | zero => exact h
  | succ n ih => exact ih.tick k

theorem Embeds.setStarted (h : Embeds clockOf clockOf' sourceOf sourceOf' c c')
    (f : Option Nat → Option Nat) (k : ClockId) :
    Embeds clockOf clockOf' sourceOf sourceOf' (c.setStarted f k) (c'.setStarted f k) := by
  have hpace : ∀ a b : Clock, a.pace = b.pace →
      ({ a with started := f a.started } : Clock).pace =
        ({ b with started := f b.started } : Clock).pace := by
    intro a b hab
    obtain ⟨hinterval, hstarted⟩ := Prod.mk.inj hab
    exact Prod.ext hinterval (congrArg f hstarted)
  exact h.moved (.single (.setStarted f k c)) (.single (.setStarted f k c'))
    ⟨h.agrees.clocks.modify_both hpace k, h.agrees.sources, h.agrees.values⟩

theorem Embeds.stopValue (h : Embeds clockOf clockOf' sourceOf sourceOf' c c') (v : ValueId) :
    Embeds clockOf clockOf' sourceOf sourceOf' (c.stopValue v) (c'.stopValue v) :=
  h.moved (.single (.stop v c)) (.single (.stop v c')) (h.agrees.onValue Value.stop v)

theorem dueTicks_of_pace {a b : Clock} (h : a.pace = b.pace) (since now : Nat) :
    dueTicks a since now = dueTicks b since now := by
  obtain ⟨hinterval, hstarted⟩ := Prod.mk.inj h
  unfold dueTicks
  rw [hinterval, hstarted]

theorem tick_eq_self {k : ClockId} (h : c.clocks.size ≤ k) : c.tick k = c := by
  unfold Circuit.tick
  rw [Array.getElem?_eq_none h]

theorem ticks_eq_self {k : ClockId} (h : c.clocks.size ≤ k) (n : Nat) : c.ticks n k = c := by
  unfold Circuit.ticks
  induction n with
  | zero => rfl
  | succ n ih => rw [Nat.repeat, ih, tick_eq_self h]

theorem pass_eq_self {k : ClockId} (h : c.clocks.size ≤ k) (since now : Nat) :
    c.pass since now k = c := by
  unfold Circuit.pass
  rw [Array.getElem?_eq_none h]

theorem pass_eq_ticks {k : ClockId} {clock : Clock} (hk : c.clocks[k]? = some clock)
    (since now : Nat) : c.pass since now k = c.ticks (dueTicks clock since now) k := by
  unfold Circuit.pass
  rw [hk]

/-- As much is due in both circuits. -/
theorem Embeds.pass (h : Embeds clockOf clockOf' sourceOf sourceOf' c c') (since now : Nat)
    (k : ClockId) :
    Embeds clockOf clockOf' sourceOf sourceOf' (c.pass since now k) (c'.pass since now k) := by
  cases hk' : c'.clocks[k]? with
  | none =>
    have hout' : c'.clocks.size ≤ k := Array.getElem?_eq_none_iff.mp hk'
    rw [pass_eq_self hout', pass_eq_self (Nat.le_trans h.agrees.clocks.size_le hout')]
    exact h
  | some clock' =>
    have hticks := h.ticks (dueTicks clock' since now) k
    rw [pass_eq_ticks hk']
    cases hk : c.clocks[k]? with
    | none =>
      have hout : c.clocks.size ≤ k := Array.getElem?_eq_none_iff.mp hk
      rw [ticks_eq_self hout] at hticks
      rw [pass_eq_self hout]
      exact hticks
    | some clock =>
      obtain ⟨same, hsame, hpace⟩ := h.agrees.clocks.exists_getElem? hk
      obtain rfl := Option.some_inj.mp (hk'.symm.trans hsame)
      rw [pass_eq_ticks hk, ← dueTicks_of_pace hpace]
      exact hticks

theorem values_size_of_moves (h : Moves c c') : c'.values.size = c.values.size := by
  simpa [blueprint] using congrArg (fun b : Blueprint ↦ b.values.size) (blueprint_of_moves h)

theorem clocks_size_of_moves (h : Moves c c') : c'.clocks.size = c.clocks.size :=
  clocks_size_eq (blueprint_of_moves h)

theorem local_tick : Local (·.clocks.size) fun (c : Circuit ρ) k ↦ c.tick k :=
  ⟨fun c k ↦ clocks_size_of_moves (tick_moves k c), fun _ _ h ↦ tick_eq_self h⟩

theorem local_pass (since now : Nat) :
    Local (·.clocks.size) (pass since now : Circuit ρ → ClockId → Circuit ρ) :=
  ⟨fun c k ↦ clocks_size_of_moves (pass_moves since now c k), fun _ _ h ↦ pass_eq_self h _ _⟩

theorem local_setStarted (f : Option Nat → Option Nat) :
    Local (·.clocks.size) fun (c : Circuit ρ) k ↦ c.setStarted f k :=
  ⟨fun c k ↦ clocks_size_of_moves (.single (.setStarted f k c)), fun _ _ h ↦ setStarted_eq_self h f⟩

theorem local_stopValue : Local (·.values.size) fun (c : Circuit ρ) v ↦ c.stopValue v :=
  ⟨fun c v ↦ values_size_of_moves (.single (.stop v c)), fun _ _ h ↦ stopValue_eq_self h⟩

end Circuit

end TelemetrySim.Live
