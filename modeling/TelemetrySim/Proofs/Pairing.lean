import Mathlib.Data.List.Forall2
import TelemetrySim.Proofs.Outcome

/-!
Lists whose elements stand in a relation one by one. Such pairs come out of a loop that adds one
element in each round (`foldlM_concat`).
-/

set_option autoImplicit false
set_option relaxedAutoImplicit false

namespace TelemetrySim.Pairing

open Outcome

variable {α β : Type} {R : α → β → Prop} {l : List α} {m : List β}

theorem exists_right (h : List.Forall₂ R l m) {a : α} (ha : a ∈ l) : ∃ b ∈ m, R a b := by
  induction h with
  | nil => simp at ha
  | @cons a' b' l m hhead htail ih =>
    rcases List.mem_cons.mp ha with rfl | ha
    · exact ⟨b', by simp, hhead⟩
    · obtain ⟨b, hb, hab⟩ := ih ha
      exact ⟨b, by simp [hb], hab⟩

theorem exists_left (h : List.Forall₂ R l m) {b : β} (hb : b ∈ m) : ∃ a ∈ l, R a b :=
  exists_right h.flip hb

/-- What is the same in each pair is the same in the lists. -/
theorem map_eq {γ : Type} {f : α → γ} {g : β → γ} (hfg : ∀ a b, R a b → g b = f a)
    (h : List.Forall₂ R l m) : m.map g = l.map f := by
  induction h with
  | nil => rfl
  | cons hab _ ih => rw [List.map_cons, List.map_cons, hfg _ _ hab, ih]

/-- A list has a partner if and only if each of its elements has one. -/
theorem exists_forall₂_iff : (∃ m, List.Forall₂ R l m) ↔ ∀ a ∈ l, ∃ b, R a b := by
  constructor
  · rintro ⟨m, h⟩ a ha
    obtain ⟨b, -, hab⟩ := exists_right h ha
    exact ⟨b, hab⟩
  · intro h
    induction l with
    | nil => exact ⟨[], .nil⟩
    | cons a rest ih =>
      obtain ⟨b, hab⟩ := h a (by simp)
      obtain ⟨m, hm⟩ := ih fun a ha ↦ h a (by simp [ha])
      exact ⟨b :: m, .cons hab hm⟩

/-- A loop that computes a partner for each element succeeds if there is one for each. -/
theorem mapM_eq_ok_iff {ε : Type} {f : α → Except ε β} :
    l.mapM f = .ok m ↔ List.Forall₂ (fun a b ↦ f a = .ok b) l m := by
  induction l generalizing m with
  | nil => simp [pure, Except.pure, eq_comm]
  | cons a rest ih =>
    simp only [List.mapM_cons, bind_eq_ok_iff, ih]
    constructor
    · rintro ⟨b, hb, bs, hbs, hm⟩
      obtain rfl := Except.ok.inj hm
      exact .cons hb hbs
    · rintro (_ | ⟨hb, hbs⟩)
      exact ⟨_, hb, _, hbs, rfl⟩

theorem mapM_congr {ε : Type} {f g : α → Except ε β} (h : ∀ a ∈ l, f a = g a) :
    l.mapM f = l.mapM g := by
  induction l with
  | nil => rfl
  | cons a rest ih =>
    obtain ⟨ha, hrest⟩ := List.forall_mem_cons.mp h
    rw [List.mapM_cons, List.mapM_cons, ha, ih hrest]

/-- A loop that adds an element in each round pairs what it goes through with what it adds. -/
theorem foldlM_concat {ε : Type} {f : List β → α → Except ε (List β)}
    (hstep : ∀ a done next, f done a = .ok next → ∃ b, R a b ∧ done ++ [b] = next)
    {done out : List β} (h : l.foldlM f done = .ok out) :
    ∃ others, List.Forall₂ R l others ∧ done ++ others = out := by
  induction l generalizing done with
  | nil => exact ⟨[], .nil, by simpa [pure, Except.pure] using h⟩
  | cons a rest ih =>
    rw [List.foldlM_cons] at h
    obtain ⟨next, hfirst, hrest⟩ := bind_eq_ok_iff.mp h
    obtain ⟨b, hab, rfl⟩ := hstep a done next hfirst
    obtain ⟨others, hothers, rfl⟩ := ih hrest
    exact ⟨b :: others, .cons hab hothers, by rw [List.append_assoc, List.singleton_append]⟩

end TelemetrySim.Pairing
