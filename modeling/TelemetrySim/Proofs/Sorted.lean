import Mathlib.Data.String.Basic
import TelemetrySim.Assoc

/-!
Tables sorted by key. Sorting keeps the entries and orders them (`sorted_sorted`), a table that is
sorted stays as it is (`Sorted.sorted_eq`), and a sorted table is determined by its look-ups
(`Sorted.eq_of_lookup`), so two of them are equal as lists exactly if they are equal as maps.
-/

set_option autoImplicit false
set_option relaxedAutoImplicit false

namespace TelemetrySim.Assoc

variable {α : Type} {l m : List (String × α)} {key k : String} {a : α}

/-- The keys ascend. -/
def Sorted (l : List (String × α)) : Prop := l.Pairwise fun p q ↦ p.1 < q.1

instance (l : List (String × α)) : Decidable (Sorted l) :=
  inferInstanceAs (Decidable (l.Pairwise fun p q ↦ p.1 < q.1))

theorem lookup_cons_eq_ite (p : String × α) (l : List (String × α)) (k : String) :
    (p :: l).lookup k = if k = p.1 then some p.2 else l.lookup k := by
  by_cases h : k = p.1
  · rw [if_pos h, h, List.lookup_cons_self]
  · have hne : (k == p.1) = false := beq_eq_false_iff_ne.mpr h
    rw [if_neg h, List.lookup_cons, hne]

/-! ### Single insertions -/

theorem mem_place {p : String × α} (hp : p ∈ place key a l) : p = (key, a) ∨ p ∈ l := by
  induction l with
  | nil => exact .inl (List.mem_singleton.mp hp)
  | cons q rest ih =>
    rw [place] at hp
    split at hp
    · exact List.mem_cons.mp hp
    · split at hp
      · exact (List.mem_cons.mp hp).imp_right (List.mem_cons_of_mem q)
      · rcases List.mem_cons.mp hp with rfl | hp
        · exact .inr List.mem_cons_self
        · exact (ih hp).imp_right (List.mem_cons_of_mem q)

theorem Sorted.place (h : Sorted l) (key : String) (a : α) : Sorted (place key a l) := by
  induction l with
  | nil => simp [Sorted, Assoc.place]
  | cons q rest ih =>
    obtain ⟨hq, hrest⟩ := List.pairwise_cons.mp h
    rw [Assoc.place]
    split
    · next hlt =>
      refine List.pairwise_cons.mpr ⟨fun p hp ↦ ?_, h⟩
      rcases List.mem_cons.mp hp with rfl | hp
      · exact hlt
      · exact hlt.trans (hq p hp)
    · next hge =>
      split
      · next heq => exact List.pairwise_cons.mpr ⟨heq ▸ hq, hrest⟩
      · next hne =>
        refine List.pairwise_cons.mpr ⟨fun p hp ↦ ?_, ih hrest⟩
        rcases mem_place hp with rfl | hp
        · exact lt_of_le_of_ne (not_lt.mp hge) (Ne.symm hne)
        · exact hq p hp

theorem lookup_place (key : String) (a : α) (l : List (String × α)) (k : String) :
    (place key a l).lookup k = if k = key then some a else l.lookup k := by
  induction l with
  | nil => rw [place, lookup_cons_eq_ite]
  | cons q rest ih =>
    rw [place]
    split
    · rw [lookup_cons_eq_ite]
    · split
      · next heq =>
        rw [lookup_cons_eq_ite, lookup_cons_eq_ite, ← heq]
        split <;> rfl
      · next hne =>
        rw [lookup_cons_eq_ite, ih, lookup_cons_eq_ite]
        by_cases hk : k = q.1
        · have hkey : k ≠ key := fun h ↦ hne (h.symm.trans hk)
          rw [if_pos hk, if_pos hk, if_neg hkey]
        · rw [if_neg hk, if_neg hk]

/-- The default is there unless something else is. -/
theorem lookup_placeDefault (key : String) (a : α) (l : List (String × α)) (k : String) :
    (placeDefault key a l).lookup k = (l.lookup k).or (if k = key then some a else none) := by
  rw [placeDefault]
  split
  · next hthere =>
    by_cases hk : k = key
    · rw [← hk] at hthere
      rw [Option.or_of_isSome hthere]
    · rw [if_neg hk, Option.or_none]
  · next hmissing =>
    rw [lookup_place]
    by_cases hk : k = key
    · rw [← hk] at hmissing
      rw [if_pos hk, if_pos hk, Option.not_isSome_iff_eq_none.mp hmissing, Option.none_or]
    · rw [if_neg hk, if_neg hk, Option.or_none]

theorem Sorted.placeDefault (h : Sorted l) (key : String) (a : α) :
    Sorted (placeDefault key a l) := by
  rw [Assoc.placeDefault]
  split
  · exact h
  · exact h.place key a

/-! ### Sorting -/

theorem foldl_place_sorted (h : Sorted m) (l : List (String × α)) :
    Sorted (l.foldl (fun acc (k, a) ↦ place k a acc) m) := by
  induction l generalizing m with
  | nil => exact h
  | cons p rest ih => exact ih (h.place p.1 p.2)

theorem sorted_sorted (l : List (String × α)) : Sorted (sorted l) :=
  foldl_place_sorted .nil l

theorem mem_foldl_place {p : String × α}
    (hp : p ∈ l.foldl (fun acc (k, a) ↦ place k a acc) m) : p ∈ m ∨ p ∈ l := by
  induction l generalizing m with
  | nil => exact .inl hp
  | cons q rest ih =>
    rcases ih hp with hp | hp
    · rcases mem_place hp with rfl | hp
      · exact .inr List.mem_cons_self
      · exact .inl hp
    · exact .inr (List.mem_cons_of_mem q hp)

theorem lookup_foldl_place (l m : List (String × α)) (k : String) :
    (l.foldl (fun acc (k, a) ↦ place k a acc) m).lookup k =
      (l.reverse.lookup k).or (m.lookup k) := by
  induction l generalizing m with
  | nil => rfl
  | cons p rest ih =>
    rw [List.foldl_cons, ih, lookup_place, List.reverse_cons, List.lookup_append,
      lookup_cons_eq_ite, List.lookup_nil, Option.or_assoc]
    by_cases hk : k = p.1
    · rw [if_pos hk, if_pos hk, Option.some_or]
    · rw [if_neg hk, if_neg hk, Option.none_or]

/-- Of a repeated key the last value stays. -/
theorem lookup_sorted (l : List (String × α)) (k : String) :
    (sorted l).lookup k = l.reverse.lookup k := by
  rw [sorted, lookup_foldl_place, List.lookup_nil, Option.or_none]

/-- Sorting adds no entries. -/
theorem mem_of_mem_sorted {p : String × α} (hp : p ∈ sorted l) : p ∈ l :=
  (mem_foldl_place hp).resolve_left List.not_mem_nil

/-- An entry behind all others goes to the end. -/
theorem place_of_sorted_concat (h : Sorted (l ++ [(key, a)])) :
    place key a l = l ++ [(key, a)] := by
  induction l with
  | nil => rfl
  | cons q rest ih =>
    obtain ⟨hq, hrest⟩ := List.pairwise_cons.mp h
    have hlt : q.1 < key := hq (key, a) (by simp)
    rw [place, if_neg hlt.not_gt, if_neg hlt.ne', ih hrest, List.cons_append]

theorem foldl_place_of_sorted_append (h : Sorted (m ++ l)) :
    l.foldl (fun acc (k, a) ↦ place k a acc) m = m ++ l := by
  induction l generalizing m with
  | nil => simp
  | cons p rest ih =>
    have hsplit : m ++ p :: rest = (m ++ [p]) ++ rest := by simp
    rw [hsplit] at h ⊢
    have hfirst : place p.1 p.2 m = m ++ [p] :=
      place_of_sorted_concat (List.pairwise_append.mp h).1
    exact (congrArg (List.foldl _ · rest) hfirst).trans (ih h)

/-- Sorting leaves a sorted table as it is. -/
theorem Sorted.sorted_eq (h : Sorted l) : sorted l = l :=
  foldl_place_of_sorted_append (m := []) h

/-! ### Equality -/

theorem lookup_eq_none_of_lt (h : ∀ p ∈ l, k < p.1) : l.lookup k = none := by
  refine List.lookup_eq_none_iff.mpr fun p hp ↦ ?_
  simpa using (h p hp).ne

/-- What would come before the first key is not there. -/
theorem Sorted.lookup_eq_none {q : String × α} (h : Sorted (q :: m)) (hlt : k < q.1) :
    (q :: m).lookup k = none := by
  obtain ⟨hq, -⟩ := List.pairwise_cons.mp h
  refine lookup_eq_none_of_lt fun p hp ↦ ?_
  rcases List.mem_cons.mp hp with rfl | hp
  · exact hlt
  · exact hlt.trans (hq p hp)

theorem lookup_head (p : String × α) (l : List (String × α)) :
    (p :: l).lookup p.1 = some p.2 := by
  rw [lookup_cons_eq_ite, if_pos rfl]

/-- Two tables with the same look-ups start with the same key. -/
theorem Sorted.head_eq {p q : String × α} (hl : Sorted (p :: l)) (hm : Sorted (q :: m))
    (h : ∀ k, (p :: l).lookup k = (q :: m).lookup k) : p.1 = q.1 := by
  rcases lt_trichotomy p.1 q.1 with hlt | heq | hlt
  · have hnone := hm.lookup_eq_none hlt
    rw [← h, lookup_head] at hnone
    simp at hnone
  · exact heq
  · have hnone := hl.lookup_eq_none hlt
    rw [h, lookup_head] at hnone
    simp at hnone

theorem Sorted.eq_of_lookup (hl : Sorted l) (hm : Sorted m)
    (h : ∀ k, l.lookup k = m.lookup k) : l = m := by
  induction l generalizing m with
  | nil =>
    cases m with
    | nil => rfl
    | cons q m =>
      have hnone := (h q.1).trans (lookup_head q m)
      simp at hnone
  | cons p l ih =>
    cases m with
    | nil =>
      have hnone := (h p.1).symm.trans (lookup_head p l)
      simp at hnone
    | cons q m =>
      have hkeys : p.1 = q.1 := hl.head_eq hm h
      have hvalues : p.2 = q.2 := by
        have hlookup := h p.1
        rw [lookup_head, hkeys, lookup_head] at hlookup
        exact Option.some_inj.mp hlookup
      obtain ⟨hp, hl⟩ := List.pairwise_cons.mp hl
      obtain ⟨hq, hm⟩ := List.pairwise_cons.mp hm
      have hrest : ∀ k, l.lookup k = m.lookup k := by
        intro k
        by_cases hk : k = p.1
        · rw [hk, lookup_eq_none_of_lt hp, hkeys, lookup_eq_none_of_lt hq]
        · have hlookup := h k
          rw [lookup_cons_eq_ite, lookup_cons_eq_ite, ← hkeys, if_neg hk, if_neg hk] at hlookup
          exact hlookup
      rw [ih hl hm hrest, Prod.ext hkeys hvalues]

end TelemetrySim.Assoc
