import TelemetrySim.Proofs.Live.Delivery
import TelemetrySim.Proofs.Live.Streams

/-!
Draws and what becomes of them. While one step is taken after the other, the numbers that a value is
sent can be noted (`noted`). A source draws one number for each time that it fires, and so one for
each tick of the clock that it listens to (`Source.Drew`): the numbers of its stream, one after the
other, which are exactly what its values are sent (`Circuit.drew_ticks`). Nothing else is done to a
value by ticks (`Circuit.value_ticks`).
-/

set_option autoImplicit false
set_option relaxedAutoImplicit false

namespace TelemetrySim.Live

variable {ρ : Type}

/-! ### Notes -/

section Noted

variable {σ α β γ : Type} {step : σ → α → σ} {note : σ → α → List β}

/-- What is noted while one step is taken after the other. -/
def noted (step : σ → α → σ) (note : σ → α → List β) : List α → σ → List β
  | [], _ => []
  | a :: rest, s => note s a ++ noted step note rest (step s a)

theorem noted_singleton (step : σ → α → σ) (l : List α) (s : σ) :
    noted step (fun _ a ↦ [a]) l s = l := by
  induction l generalizing s with
  | nil => rfl
  | cons a rest ih => exact congrArg (a :: ·) (ih (step s a))

theorem noted_append (step : σ → α → σ) (note : σ → α → List β) (l l' : List α) (s : σ) :
    noted step note (l ++ l') s = noted step note l s ++ noted step note l' (l.foldl step s) := by
  induction l generalizing s with
  | nil => rfl
  | cons a rest ih => rw [List.cons_append, noted, noted, ih, List.append_assoc, List.foldl_cons]

/-- If the notes of a step account for what it does to a part of the state, all notes account for
what all steps do to it. -/
theorem foldl_noted {I : σ → Prop} (hstep : ∀ s a, I s → I (step s a))
    {p : σ → Option γ} {take : γ → β → γ}
    (hnote : ∀ s a x, I s → p s = some x → p (step s a) = some ((note s a).foldl take x))
    (l : List α) {s : σ} (h : I s) {x : γ} (hx : p s = some x) :
    p (l.foldl step s) = some ((noted step note l s).foldl take x) := by
  induction l generalizing s x with
  | nil => exact hx
  | cons a rest ih =>
    rw [List.foldl_cons, noted, List.foldl_append]
    exact ih (hstep s a h) (hnote s a x h hx)

end Noted

/-! ### Sources that draw -/

section Drew

variable [Random.Rng ρ] {σ α γ γ' : Type} [DecidableEq γ] [DecidableEq γ']
  {src src' src'' : Source ρ}

/-- A source has drawn one number for each time that `k` occurs, and these are the numbers that have
been sent. -/
structure Source.Drew (k : γ) (ticks : List γ) (sent : List Int64) (src src' : Source ρ) : Prop where
  eq_after : src' = src.after (ticks.count k)
  sent_eq : sent = src.numbers (ticks.count k)

theorem Source.Drew.nothing (k : γ) (src : Source ρ) : Drew k [] [] src src :=
  ⟨src.after_zero.symm, rfl⟩

theorem Source.Drew.append {k : γ} {ticks ticks' : List γ} {sent sent' : List Int64}
    (h : Drew k ticks sent src src') (h' : Drew k ticks' sent' src' src'') :
    Drew k (ticks ++ ticks') (sent ++ sent') src src'' where
  eq_after := by rw [h'.eq_after, h.eq_after, after_add, List.count_append]
  sent_eq := by rw [h'.sent_eq, h.sent_eq, h.eq_after, List.count_append, numbers_add]

theorem Source.Drew.of_count {k : γ} {k' : γ'} {ticks : List γ} {ticks' : List γ'}
    {sent : List Int64} (h : Drew k ticks sent src src')
    (hcount : ticks.count k = ticks'.count k') : Drew k' ticks' sent src src' where
  eq_after := by rw [h.eq_after, hcount]
  sent_eq := by rw [h.sent_eq, hcount]

/-- If a source draws so in each step, it does in all steps together. -/
theorem noted_drew {step : σ → α → σ} {I : σ → Prop} (hstep : ∀ s a, I s → I (step s a))
    {p : σ → Option (Source ρ)} {k : γ} {ticks : σ → α → List γ} {sent : σ → α → List Int64}
    (hdrew : ∀ s a src, I s → p s = some src →
      ∃ src', p (step s a) = some src' ∧ src.Drew k (ticks s a) (sent s a) src')
    (l : List α) {s : σ} (h : I s) (hsrc : p s = some src) :
    ∃ src', p (l.foldl step s) = some src' ∧
      src.Drew k (noted step ticks l s) (noted step sent l s) src' := by
  induction l generalizing s src with
  | nil => exact ⟨src, hsrc, .nothing k src⟩
  | cons a rest ih =>
    obtain ⟨next, hnext, hfirst⟩ := hdrew s a src h hsrc
    obtain ⟨last, hlast, hrest⟩ := ih (hstep s a h) hnext
    exact ⟨last, hlast, hfirst.append hrest⟩

end Drew

/-! ### Ticks -/

namespace Circuit

variable {c : Circuit ρ} {clockOf : List ClockId} {sourceOf : List SourceId} {v : ValueId}
  {s t : SourceId} {k : ClockId} {src : Source ρ}

theorem count_listeners (hc : c.Wired clockOf sourceOf) (ht : clockOf[t]? = some k)
    (k' : ClockId) : (c.listeners k').count t = [k'].count k := by
  have hlistens : t ∈ c.listeners k' ↔ k = k' := by
    rw [(hc.listens k').mem_iff, ht, Option.some_inj]
  by_cases hk : k = k'
  · rw [List.count_eq_one_of_mem (hc.listens k').nodup (hlistens.mpr hk), hk]
    simp
  · rw [List.count_eq_zero_of_not_mem (mt hlistens.mp hk)]
    simp [Ne.symm hk]

variable [Random.Rng ρ]

/-- What a value is sent when a source draws: the number drawn, each time that it listens. -/
def sent (v : ValueId) (c : Circuit ρ) (s : SourceId) : List Int64 :=
  match c.sources[s]? with
  | none => []
  | some src => List.replicate (src.listeners.count v) src.draw.1

/-- What a value is sent when a clock ticks. -/
def sentByTick (v : ValueId) (c : Circuit ρ) (k : ClockId) : List Int64 :=
  noted (fun c s ↦ c.fire s) (sent v) (c.listeners k) c

/-- What a value is sent when clocks tick one after the other. -/
def sentByTicks (v : ValueId) (ks : List ClockId) (c : Circuit ρ) : List Int64 :=
  noted (fun c k ↦ c.tick k) (sentByTick v) ks c

/-- A value listens once to the source that it was made for, and to no other. -/
theorem sent_eq (hc : c.Wired clockOf sourceOf) (hv : sourceOf[v]? = some t) {src : Source ρ}
    (hs : c.sources[s]? = some src) : c.sent v s = if t = s then [src.draw.1] else [] := by
  have haudience := hc.attends_of hs
  have hlistens : v ∈ src.listeners ↔ t = s := by
    rw [haudience.mem_iff, hv, Option.some_inj]
  rw [sent, hs]
  show List.replicate (src.listeners.count v) src.draw.1 = _
  split_ifs with hts
  · rw [List.count_eq_one_of_mem haudience.nodup (hlistens.mpr hts), List.replicate_one]
  · rw [List.count_eq_zero_of_not_mem (mt hlistens.mp hts), List.replicate_zero]

theorem drew_fire (hc : c.Wired clockOf sourceOf) (hv : sourceOf[v]? = some t)
    (ht : c.sources[t]? = some src) (s : SourceId) :
    ∃ src', (c.fire s).sources[t]? = some src' ∧ src.Drew t [s] (c.sent v s) src' := by
  have hfired := fire_fired hc s
  by_cases hts : t = s
  · subst hts
    refine ⟨src.draw.2, hfired.drawn t (List.mem_singleton_self t) src ht, ?_, ?_⟩
    · rw [List.count_singleton_self, src.after_one]
    · rw [sent_eq hc hv ht, if_pos rfl, List.count_singleton_self, src.numbers_one]
  · have hcount : [s].count t = 0 := List.count_eq_zero.mpr (by simpa using hts)
    refine ⟨src, ?_, ?_, ?_⟩
    · rw [hfired.undrawn t (by simpa using hts), ht]
    · rw [hcount, src.after_zero]
    · rw [hcount]
      cases hs : c.sources[s]? with
      | none =>
        rw [sent, hs]
        rfl
      | some other =>
        rw [sent_eq hc hv hs, if_neg hts]
        rfl

/-- A source draws at the ticks of its own clock. -/
theorem drew_tick (hc : c.Wired clockOf sourceOf) (hv : sourceOf[v]? = some t)
    (hk : clockOf[t]? = some k) (ht : c.sources[t]? = some src) (k' : ClockId) :
    ∃ src', (c.tick k').sources[t]? = some src' ∧ src.Drew k [k'] (c.sentByTick v k') src' := by
  obtain ⟨src', hsrc', hdrew⟩ := noted_drew (I := fun d : Circuit ρ ↦ d.Wired clockOf sourceOf)
    (p := fun d ↦ d.sources[t]?) (fun d s hd ↦ hd.of_blueprint (blueprint_fire s d))
    (fun _ s _ hd hs ↦ drew_fire hd hv hs s) (c.listeners k') hc ht
  rw [noted_singleton] at hdrew
  rw [tick_eq]
  exact ⟨src', hsrc', hdrew.of_count (count_listeners hc hk k')⟩

theorem drew_ticks (hc : c.Wired clockOf sourceOf) (hv : sourceOf[v]? = some t)
    (hk : clockOf[t]? = some k) (ht : c.sources[t]? = some src) (ks : List ClockId) :
    ∃ src', (ks.foldl (fun c k ↦ c.tick k) c).sources[t]? = some src' ∧
      src.Drew k ks (c.sentByTicks v ks) src' := by
  have hdrew := noted_drew (I := fun d : Circuit ρ ↦ d.Wired clockOf sourceOf)
    (p := fun d ↦ d.sources[t]?) (fun d k hd ↦ hd.of_blueprint (blueprint_tick k d))
    (fun _ k' _ hd hs ↦ drew_tick hd hv hk hs k') ks hc ht
  rwa [noted_singleton] at hdrew

theorem value_fire (hc : c.Wired clockOf sourceOf) (s : SourceId) {w : Value}
    (hw : c.values[v]? = some w) :
    (c.fire s).values[v]? = some ((c.sent v s).foldl Value.update w) := by
  cases hs : c.sources[s]? with
  | none =>
    rw [fire_eq_self hs, sent, hs, hw]
    rfl
  | some src =>
    have haudience := hc.attends_of hs
    rw [fire_eq hs, getElem?_publish _ haudience.nodup, sent, hs]
    show (if v ∈ src.listeners then c.values[v]?.map (·.update src.draw.1) else c.values[v]?) =
      some ((List.replicate (src.listeners.count v) src.draw.1).foldl Value.update w)
    split_ifs with hlistens
    · rw [List.count_eq_one_of_mem haudience.nodup hlistens, hw]
      rfl
    · rw [List.count_eq_zero_of_not_mem hlistens, hw]
      rfl

theorem value_tick (hc : c.Wired clockOf sourceOf) (k : ClockId) {w : Value}
    (hw : c.values[v]? = some w) :
    (c.tick k).values[v]? = some ((c.sentByTick v k).foldl Value.update w) := by
  rw [tick_eq]
  exact foldl_noted (I := fun d : Circuit ρ ↦ d.Wired clockOf sourceOf)
    (p := fun d : Circuit ρ ↦ d.values[v]?) (fun d s hd ↦ hd.of_blueprint (blueprint_fire s d))
    (fun _ s _ hd hw ↦ value_fire hd s hw) _ hc hw

/-- What a value is sent is all that ticks do to it. -/
theorem value_ticks (hc : c.Wired clockOf sourceOf) (ks : List ClockId) {w : Value}
    (hw : c.values[v]? = some w) : (ks.foldl (fun c k ↦ c.tick k) c).values[v]? =
      some ((c.sentByTicks v ks).foldl Value.update w) :=
  foldl_noted (I := fun d : Circuit ρ ↦ d.Wired clockOf sourceOf)
    (p := fun d : Circuit ρ ↦ d.values[v]?) (fun d k hd ↦ hd.of_blueprint (blueprint_tick k d))
    (fun _ k _ hd hw ↦ value_tick hd k hw) ks hc hw

end Circuit

end TelemetrySim.Live
