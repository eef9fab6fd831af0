import Mathlib.Logic.Basic

/-!
Outcomes taken apart. A sequence of steps succeeds if each of its steps does; a loop that can fail
keeps what each of its rounds keeps. `Refines` compares two runs of one computation in different
settings: where the first succeeds the second does, with the same result. `Blames` bounds the errors
that a computation can end with. `Decides` is for steps whose success hangs on a condition: what
holds after a success, and what can be wrong after a failure, is said once for each step.
-/

set_option autoImplicit false
set_option relaxedAutoImplicit false

namespace TelemetrySim.Outcome

variable {ε ε' α β : Type}

theorem bind_eq_ok_iff {x : Except ε α} {f : α → Except ε β} {b : β} :
    (x >>= f) = .ok b ↔ ∃ a, x = .ok a ∧ f a = .ok b := by
  cases x with
  | error e => simp [bind, Except.bind]
  | ok a => simp [bind, Except.bind]

theorem bind_eq_error_iff {x : Except ε α} {f : α → Except ε β} {e : ε} :
    (x >>= f) = .error e ↔ x = .error e ∨ ∃ a, x = .ok a ∧ f a = .error e := by
  cases x with
  | error e' => simp [bind, Except.bind]
  | ok a => simp [bind, Except.bind]

/-- Two checks in a row succeed if both do. -/
theorem then_eq_ok_iff {x y : Except ε PUnit} :
    (x >>= fun _ ↦ y) = .ok () ↔ x = .ok () ∧ y = .ok () := by
  rw [bind_eq_ok_iff]
  exact ⟨fun ⟨(), hx, hy⟩ ↦ ⟨hx, hy⟩, fun ⟨hx, hy⟩ ↦ ⟨(), hx, hy⟩⟩

theorem map_eq_ok_iff {x : Except ε α} {f : α → β} {b : β} :
    f <$> x = .ok b ↔ ∃ a, x = .ok a ∧ f a = b := by
  cases x with
  | error e => simp [Functor.map, Except.map]
  | ok a => simp [Functor.map, Except.map]

theorem mapError_eq_ok_iff {x : Except ε α} {f : ε → ε'} {a : α} :
    x.mapError f = .ok a ↔ x = .ok a := by
  cases x with
  | error e =>
    show Except.error (f e) = .ok a ↔ Except.error e = .ok a
    simp
  | ok b =>
    show Except.ok b = .ok a ↔ Except.ok b = .ok a
    simp

theorem mapError_eq_error_iff {x : Except ε α} {f : ε → ε'} {e' : ε'} :
    x.mapError f = .error e' ↔ ∃ e, x = .error e ∧ f e = e' := by
  cases x with
  | error e =>
    show Except.error (f e) = .error e' ↔ _
    simp
  | ok a =>
    show Except.ok a = .error e' ↔ _
    simp

/-- A loop that only checks succeeds if every check does. -/
theorem forM_eq_ok_iff {f : α → Except ε PUnit} {l : List α} :
    l.forM f = .ok () ↔ ∀ a ∈ l, f a = .ok () := by
  induction l with
  | nil => simp [pure, Except.pure]
  | cons a rest ih =>
    have hstep : (a :: rest).forM f = (f a >>= fun _ ↦ rest.forM f) := rfl
    rw [hstep, then_eq_ok_iff, List.forall_mem_cons, ih]

/-- What each round keeps is kept by the whole loop. -/
theorem foldlM_keeps {P : β → Prop} {f : β → α → Except ε β} {l : List α} {b b' : β}
    (hstep : ∀ a ∈ l, ∀ b b', P b → f b a = .ok b' → P b') (hstart : P b)
    (h : l.foldlM f b = .ok b') : P b' := by
  induction l generalizing b with
  | nil =>
    obtain rfl : b = b' := by simpa [pure, Except.pure] using h
    exact hstart
  | cons a rest ih =>
    rw [List.foldlM_cons, bind_eq_ok_iff] at h
    obtain ⟨middle, hfirst, hrest⟩ := h
    have hmiddle : P middle := hstep a (by simp) b middle hstart hfirst
    exact ih (fun a ha ↦ hstep a (by simp [ha])) hmiddle hrest

/-- A loop whose rounds succeed or not whatever came before succeeds if all of them do. -/
theorem exists_foldlM_iff {p : α → Prop} {f : β → α → Except ε β}
    (hstep : ∀ b a, (∃ b', f b a = .ok b') ↔ p a) {l : List α} {b : β} :
    (∃ b', l.foldlM f b = .ok b') ↔ ∀ a ∈ l, p a := by
  induction l generalizing b with
  | nil => simp [pure, Except.pure]
  | cons a rest ih =>
    simp only [List.foldlM_cons, bind_eq_ok_iff, List.forall_mem_cons]
    constructor
    · rintro ⟨b', next, hfirst, hrest⟩
      exact ⟨(hstep b a).mp ⟨next, hfirst⟩, ih.mp ⟨b', hrest⟩⟩
    · rintro ⟨ha, hrest⟩
      obtain ⟨next, hfirst⟩ := (hstep b a).mpr ha
      obtain ⟨b', hb'⟩ := ih.mpr hrest
      exact ⟨b', next, hfirst, hb'⟩

/-- Such a loop fails with the error of the first round that fails. -/
theorem foldlM_eq_error_iff {p : α → Prop} {E : α → ε → Prop} {f : β → α → Except ε β}
    (hstep : ∀ b a, (∃ b', f b a = .ok b') ↔ p a) (herror : ∀ b a e, f b a = .error e ↔ E a e)
    {l : List α} {b : β} {e : ε} :
    l.foldlM f b = .error e ↔
      ∃ front a back, l = front ++ a :: back ∧ (∀ c ∈ front, p c) ∧ E a e := by
  induction l generalizing b with
  | nil => simp [pure, Except.pure]
  | cons a rest ih =>
    simp only [List.foldlM_cons, bind_eq_error_iff, herror, ih]
    constructor
    · rintro (ha | ⟨next, hfirst, front, c, back, rfl, hfront, hc⟩)
      · exact ⟨[], a, rest, rfl, by simp, ha⟩
      · have ha := (hstep b a).mp ⟨next, hfirst⟩
        exact ⟨a :: front, c, back, rfl, List.forall_mem_cons.mpr ⟨ha, hfront⟩, hc⟩
    · rintro ⟨front, c, back, hsplit, hfront, hc⟩
      cases front with
      | nil =>
        obtain ⟨rfl, -⟩ := List.cons.inj hsplit
        exact .inl hc
      | cons a' front =>
        obtain ⟨rfl, rfl⟩ := List.cons.inj hsplit
        obtain ⟨ha, hfront⟩ := List.forall_mem_cons.mp hfront
        obtain ⟨next, hfirst⟩ := (hstep b a).mpr ha
        exact .inr ⟨next, hfirst, front, c, back, rfl, hfront, hc⟩

/-- Where the first succeeds the second does, with the same result. -/
def Refines (x y : Except ε α) : Prop := ∀ a, x = .ok a → y = .ok a

namespace Refines

variable {x y : Except ε α}

theorem refl (x : Except ε α) : Refines x x := fun _ h ↦ h

theorem of_error {e : ε} : Refines (.error e) y := by
  intro a h
  simp at h

theorem bind {f g : α → Except ε β} (h : Refines x y) (hf : ∀ a, Refines (f a) (g a)) :
    Refines (x >>= f) (y >>= g) := by
  intro b hb
  obtain ⟨a, ha, hb⟩ := bind_eq_ok_iff.mp hb
  exact bind_eq_ok_iff.mpr ⟨a, h a ha, hf a b hb⟩

theorem map {f : α → β} (h : Refines x y) : Refines (f <$> x) (f <$> y) := by
  intro b hb
  obtain ⟨a, ha, hb⟩ := map_eq_ok_iff.mp hb
  exact map_eq_ok_iff.mpr ⟨a, h a ha, hb⟩

theorem mapError {f : ε → ε'} (h : Refines x y) : Refines (x.mapError f) (y.mapError f) := by
  intro a ha
  exact mapError_eq_ok_iff.mpr (h a (mapError_eq_ok_iff.mp ha))

theorem foldlM {f g : β → α → Except ε β} (hstep : ∀ b a, Refines (f b a) (g b a)) (l : List α)
    (b : β) : Refines (l.foldlM f b) (l.foldlM g b) := by
  induction l generalizing b with
  | nil => exact .refl _
  | cons a rest ih =>
    rw [List.foldlM_cons, List.foldlM_cons]
    exact (hstep b a).bind ih

end Refines

/-- Every error of the outcome satisfies `E`. -/
def Blames (E : ε → Prop) (x : Except ε α) : Prop := ∀ e, x = .error e → E e

namespace Blames

variable {E : ε → Prop} {x : Except ε α}

theorem ok (a : α) : Blames E (.ok a : Except ε α) := by
  intro e h
  simp at h

theorem error {e : ε} (he : E e) : Blames E (.error e : Except ε α) := by
  intro e' h
  rw [← Except.error.inj h]
  exact he

theorem mono (h : Blames E x) {E' : ε → Prop} (hE : ∀ e, E e → E' e) : Blames E' x :=
  fun e he ↦ hE e (h e he)

theorem bind (h : Blames E x) {f : α → Except ε β} (hf : ∀ a, x = .ok a → Blames E (f a)) :
    Blames E (x >>= f) := by
  intro e he
  rcases bind_eq_error_iff.mp he with hx | ⟨a, ha, he⟩
  · exact h e hx
  · exact hf a ha e he

theorem map (h : Blames E x) {f : α → β} : Blames E (f <$> x) := by
  rw [map_eq_pure_bind]
  exact h.bind fun a _ ↦ ok (f a)

theorem mapError (h : Blames E x) {f : ε → ε'} {E' : ε' → Prop} (hf : ∀ e, E e → E' (f e)) :
    Blames E' (x.mapError f) := by
  cases x with
  | ok a => exact ok a
  | error e => exact error (hf e (h e rfl))

theorem ite {c : Prop} [Decidable c] {y : Except ε α} (hx : Blames E x) (hy : Blames E y) :
    Blames E (if c then x else y) := by
  by_cases hc : c
  · rw [if_pos hc]
    exact hx
  · rw [if_neg hc]
    exact hy

theorem foldlM {f : β → α → Except ε β} {l : List α} (hstep : ∀ a ∈ l, ∀ b, Blames E (f b a))
    (b : β) : Blames E (l.foldlM f b) := by
  induction l generalizing b with
  | nil => exact ok b
  | cons a rest ih =>
    rw [List.foldlM_cons]
    exact (hstep a (by simp) b).bind fun next _ ↦ ih (fun a ha ↦ hstep a (by simp [ha])) next

theorem forM {f : α → Except ε PUnit} {l : List α} (hstep : ∀ a ∈ l, Blames E (f a)) :
    Blames E (l.forM f) := by
  induction l with
  | nil => exact ok _
  | cons a rest ih =>
    exact (hstep a (by simp)).bind fun _ _ ↦ ih fun a ha ↦ hstep a (by simp [ha])

end Blames

/-- The outcome is a success with `Q` if the condition holds, and an error with `E` if it does
not. -/
inductive Decides (E : ε → Prop) (p : Prop) (Q : α → Prop) : Except ε α → Prop
  | ok {a : α} (hp : p) (hq : Q a) : Decides E p Q (.ok a)
  | error {e : ε} (hp : ¬ p) (he : E e) : Decides E p Q (.error e)

namespace Decides

variable {E : ε → Prop} {p q : Prop} {Q : α → Prop} {R : β → Prop} {x : Except ε α}

theorem ok_iff (h : Decides E p Q x) : (∃ a, x = .ok a) ↔ p := by
  cases h with
  | ok hp hq => exact iff_of_true ⟨_, rfl⟩ hp
  | error hp he => simp [hp]

/-- What a success gives. -/
theorem gives (h : Decides E p Q x) {a : α} (ha : x = .ok a) : Q a := by
  cases h with
  | ok hp hq => rwa [← Except.ok.inj ha]
  | error hp he => simp at ha

theorem eq_error_iff {e : ε} (h : Decides (· = e) p Q x) : x = .error e ↔ ¬ p := by
  cases h with
  | ok hp hq => simp [hp]
  | error hp he => simp [hp, he]

theorem blames (h : Decides E p Q x) : Blames E x := by
  cases h with
  | ok hp hq => exact Blames.ok _
  | error hp he => exact Blames.error he

theorem congr (h : Decides E p Q x) (hpq : p ↔ q) : Decides E q Q x := by
  rw [← propext hpq]
  exact h

theorem mono (h : Decides E p Q x) {Q' : α → Prop} (hQ : ∀ a, Q a → Q' a) : Decides E p Q' x := by
  cases h with
  | ok hp hq => exact .ok hp (hQ _ hq)
  | error hp he => exact .error hp he

theorem mono_error (h : Decides E p Q x) {E' : ε → Prop} (hE : ∀ e, E e → E' e) :
    Decides E' p Q x := by
  cases h with
  | ok hp hq => exact .ok hp hq
  | error hp he => exact .error hp (hE _ he)

theorem mapError (h : Decides E p Q x) {f : ε → ε'} {E' : ε' → Prop}
    (hf : ∀ e, ¬ p → E e → E' (f e)) : Decides E' p Q (x.mapError f) := by
  cases h with
  | ok hp hq => exact .ok hp hq
  | error hp he => exact .error hp (hf _ hp he)

theorem map (h : Decides E p Q x) {f : α → β} (hf : ∀ a, Q a → R (f a)) :
    Decides E p R (f <$> x) := by
  cases h with
  | ok hp hq => exact .ok hp (hf _ hq)
  | error hp he => exact .error hp he

/-- Two steps in a row succeed if both conditions hold. -/
theorem bind (h : Decides E p Q x) {f : α → Except ε β} (hf : ∀ a, p → Q a → Decides E q R (f a)) :
    Decides E (p ∧ q) R (x >>= f) := by
  cases h with
  | error hp he => exact .error (fun hpq ↦ hp hpq.1) he
  | ok hp hq => exact (hf _ hp hq).congr (by simp [hp])

/-- A rest that always succeeds leaves the condition as it is. -/
theorem bind_ok (h : Decides E p Q x) {f : α → Except ε β}
    (hf : ∀ a, p → Q a → ∃ b, f a = .ok b ∧ R b) : Decides E p R (x >>= f) := by
  cases h with
  | error hp he => exact .error hp he
  | ok hp hq =>
    obtain ⟨b, hb, hr⟩ := hf _ hp hq
    change Decides E p R (f _)
    rw [hb]
    exact .ok hp hr

end Decides

end TelemetrySim.Outcome
