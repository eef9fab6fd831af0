import TelemetrySim.Random.Stream

/-!
Numbers drawn one after the other. For any generator of random numbers, what a stream gives is the
list of its first numbers and the stream behind them (`Rng.numbers`, `Rng.after`). The stream of
words draws as a loop does that has no bound on how many words it refuses, except where every word
that it tries would be refused (`Stream.draws_below_iff`).
-/

set_option autoImplicit false
set_option relaxedAutoImplicit false

namespace TelemetrySim.Random

/-! ### Any generator -/

namespace Rng

variable {ρ : Type} [Rng ρ] {min max : Int64}

/-- The stream behind its first numbers. -/
def after (min max : Int64) : Nat → ρ → ρ
  | 0, s => s
  | n + 1, s => after min max n (between min max s).2

/-- The first numbers of a stream. -/
def numbers (min max : Int64) : Nat → ρ → List Int64
  | 0, _ => []
  | n + 1, s => (between min max s).1 :: numbers min max n (between min max s).2

theorem after_add (n m : Nat) (s : ρ) :
    after min max m (after min max n s) = after min max (n + m) s := by
  induction n generalizing s with
  | zero => rw [after, Nat.zero_add]
  | succ n ih => rw [after, ih, Nat.succ_add, after]

theorem numbers_add (n m : Nat) (s : ρ) :
    numbers min max (n + m) s = numbers min max n s ++ numbers min max m (after min max n s) := by
  induction n generalizing s with
  | zero => rw [Nat.zero_add, numbers, after, List.nil_append]
  | succ n ih => rw [Nat.succ_add, numbers, ih, numbers, after, List.cons_append]

theorem length_numbers (n : Nat) (s : ρ) : (numbers min max n s).length = n := by
  induction n generalizing s with
  | zero => rfl
  | succ n ih => rw [numbers, List.length_cons, ih]

/-- All numbers lie in the range. -/
theorem numbers_mem (h : min ≤ max) {n : Nat} {s : ρ} {x : Int64} (hx : x ∈ numbers min max n s) :
    min ≤ x ∧ x ≤ max := by
  induction n generalizing s with
  | zero => simp [numbers] at hx
  | succ n ih =>
    rcases List.mem_cons.mp hx with rfl | hx
    · exact between_mem h s
    · exact ih hx

end Rng

/-! ### The loop without a bound -/

namespace Stream

variable {range : UInt64} {s : Stream} {r : UInt64 × Stream}

/-- The next word is accepted. -/
def Accepts (range : UInt64) (s : Stream) : Prop :=
  s.next.1.toNat * range.toNat % UInt64.size ≤ (zone range).toNat

/-- Words are read up to the first one that is accepted, and the number is the upper half of its
product. -/
inductive Draws (range : UInt64) : Stream → UInt64 × Stream → Prop
  | accept {s : Stream} (h : s.Accepts range) :
    Draws range s (UInt64.ofNat (s.next.1.toNat * range.toNat / UInt64.size), s.next.2)
  | refuse {s : Stream} {r : UInt64 × Stream} (h : ¬ s.Accepts range)
    (hrest : Draws range s.next.2 r) : Draws range s r

/-- The stream behind some words. -/
def skip (n : Nat) (s : Stream) : Stream := { s with position := s.position + n }

theorem skip_succ (n : Nat) (s : Stream) : s.skip (n + 1) = s.next.2.skip n := by
  simp only [skip, next, Stream.mk.injEq, true_and]
  omega

theorem Draws.position_lt (h : Draws range s r) : s.position < r.2.position := by
  induction h with
  | accept h => exact Nat.lt_succ_self _
  | refuse h hrest ih => exact Nat.lt_trans (Nat.lt_succ_self _) ih

theorem draws_iff_of_refused (h : ¬ s.Accepts range) :
    Draws range s r ↔ Draws range s.next.2 r := by
  refine ⟨fun hdraws ↦ ?_, .refuse h⟩
  cases hdraws with
  | accept haccepts => exact absurd haccepts h
  | refuse _ hrest => exact hrest

/-- A draw is one of the loop exactly if one of the words that it may read is accepted. -/
theorem draws_below_iff (n : Nat) (s : Stream) :
    Draws range s (s.below range n) ↔ ∃ i ≤ n, (s.skip i).Accepts range := by
  induction n generalizing s with
  | zero =>
    simp only [Nat.le_zero, exists_eq_left]
    constructor
    · intro h
      cases h with
      | accept h => exact h
      | refuse _ hrest => exact absurd hrest.position_lt (Nat.lt_irrefl _)
    · exact .accept
  | succ n ih =>
    by_cases h : s.Accepts range
    · have hbelow : s.below range (n + 1) =
          (UInt64.ofNat (s.next.1.toNat * range.toNat / UInt64.size), s.next.2) := if_pos h
      rw [hbelow]
      exact iff_of_true (.accept h) ⟨0, Nat.zero_le _, h⟩
    · have hbelow : s.below range (n + 1) = s.next.2.below range n := if_neg h
      rw [hbelow, draws_iff_of_refused h, ih]
      constructor
      · rintro ⟨i, hi, haccepts⟩
        refine ⟨i + 1, Nat.succ_le_succ hi, ?_⟩
        rwa [skip_succ]
      · rintro ⟨i, hi, haccepts⟩
        cases i with
        | zero => exact absurd haccepts h
        | succ i => exact ⟨i, Nat.le_of_succ_le_succ hi, by rwa [← skip_succ]⟩

end Stream

end TelemetrySim.Random
