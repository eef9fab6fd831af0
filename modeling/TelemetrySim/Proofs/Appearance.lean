import Mathlib.Data.List.Basic
import Mathlib.Data.List.Induction
import Mathlib.Data.List.Nodup

/-!
Order of first appearance. Removing what a list has had before keeps each of its elements once, in
the order in which they first appear (`firstAppearance_eraseDups`).
-/

set_option autoImplicit false
set_option relaxedAutoImplicit false

namespace TelemetrySim

variable {α : Type} [DecidableEq α] {l order : List α} {a : α}

theorem eraseDups_concat (l : List α) (a : α) :
    (l ++ [a]).eraseDups = if a ∈ l then l.eraseDups else l.eraseDups ++ [a] := by
  split_ifs with ha
  · simp [List.eraseDups_append, List.removeAll, ha]
  · simp [List.eraseDups_append, List.removeAll, ha, List.eraseDups_cons]

/-- The different elements of a list, ordered by where they first appear. -/
structure FirstAppearance (l order : List α) : Prop where
  nodup : order.Nodup
  mem_iff : ∀ a, a ∈ order ↔ a ∈ l
  ascending : order.Pairwise fun a b ↦ l.idxOf a < l.idxOf b

namespace FirstAppearance

/-- More at the end does not change where something first appears. -/
theorem ascending_concat (h : FirstAppearance l order) (a : α) :
    order.Pairwise fun b c ↦ (l ++ [a]).idxOf b < (l ++ [a]).idxOf c := by
  refine h.ascending.imp_of_mem fun {b c} hb hc hbc ↦ ?_
  rw [List.idxOf_append_of_mem ((h.mem_iff b).mp hb), List.idxOf_append_of_mem ((h.mem_iff c).mp hc)]
  exact hbc

theorem concat_old (h : FirstAppearance l order) (ha : a ∈ l) :
    FirstAppearance (l ++ [a]) order := by
  refine ⟨h.nodup, fun b ↦ ?_, h.ascending_concat a⟩
  rw [h.mem_iff, List.mem_append, List.mem_singleton]
  constructor
  · exact .inl
  · rintro (hb | rfl)
    · exact hb
    · exact ha

theorem concat_new (h : FirstAppearance l order) (ha : a ∉ l) :
    FirstAppearance (l ++ [a]) (order ++ [a]) := by
  have hold : ∀ b ∈ order, b ∈ l := fun b ↦ (h.mem_iff b).mp
  refine ⟨?_, fun b ↦ ?_, ?_⟩
  · refine List.nodup_append.mpr ⟨h.nodup, List.nodup_singleton a, fun b hb c hc hbc ↦ ?_⟩
    obtain rfl := List.mem_singleton.mp hc
    exact ha (hbc ▸ hold b hb)
  · rw [List.mem_append, h.mem_iff, List.mem_append]
  · refine List.pairwise_append.mpr
      ⟨h.ascending_concat a, List.pairwise_singleton _ a, fun b hb c hc ↦ ?_⟩
    obtain rfl := List.mem_singleton.mp hc
    have hlast : (l ++ [c]).idxOf c = l.length := by
      simp [List.idxOf_append_of_notMem ha]
    rw [List.idxOf_append_of_mem (hold b hb), hlast]
    exact List.idxOf_lt_length_of_mem (hold b hb)

end FirstAppearance

theorem firstAppearance_eraseDups (l : List α) : FirstAppearance l l.eraseDups := by
  induction l using List.reverseRecOn with
  | nil => exact ⟨by simp, by simp, by simp⟩
  | append_singleton l a ih =>
    rw [eraseDups_concat]
    split_ifs with ha
    · exact ih.concat_old ha
    · exact ih.concat_new ha

/-- What is found first in a list is found first among its different elements. -/
theorem find?_eraseDups (p : α → Bool) (l : List α) : l.eraseDups.find? p = l.find? p := by
  induction l using List.reverseRecOn with
  | nil => rfl
  | append_singleton l a ih =>
    rw [eraseDups_concat, List.find?_append]
    by_cases ha : a ∈ l
    · rw [if_pos ha, ih]
      cases hfound : l.find? p with
      | some b => rfl
      | none =>
        have hp := List.find?_eq_none.mp hfound a ha
        simp [hp]
    · rw [if_neg ha, List.find?_append, ih]

end TelemetrySim
