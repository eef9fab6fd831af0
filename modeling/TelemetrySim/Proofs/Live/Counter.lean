import TelemetrySim.Proofs.Live.Accumulation

/-!
Counters. A value that goes through `accumulate` once or more and is never set back only rises while
it is sent numbers that are not negative (`chain_rises`). The numbers need no bound: a sum that
would leave the 64 bits is cut off at the greatest integer, and there the reading stays.
-/

set_option autoImplicit false
set_option relaxedAutoImplicit false

namespace TelemetrySim.Live

/-! ### What uses show -/

/-- The readings that come back: one from a read and one from a look. -/
def Use.shown (v : Value) : Use → List Int64
  | update _ => []
  | read => [v.read.1]
  | peek => [v.peek]

/-- All readings that come back, in order. -/
def Value.shown (uses : List Use) (v : Value) : List Int64 := noted Use.apply Use.shown uses v

theorem Value.after_append (uses more : List Use) (v : Value) :
    v.after (uses ++ more) = (v.after uses).after more :=
  List.foldl_append ..

/-! ### One update -/

/-- What is cut off at the ends stays above every integer of 64 bits that it was above. -/
theorem le_saturate {c : Int64} {i : Int} (h : c.toInt ≤ i) : c ≤ saturate i := by
  rcases lt_or_ge Int64.maxValue.toInt i with hhigh | hhigh
  · have hmin : ¬ i < Int64.minValue.toInt := not_lt.mpr (c.minValue_le_toInt.trans h)
    rw [saturate, if_neg hmin, if_pos hhigh]
    exact c.le_maxValue
  · have hfits : Number.fitsInt64 i := fitsInt64_iff.mpr ⟨c.minValue_le_toInt.trans h, hhigh⟩
    rw [Int64.le_iff_toInt_le, toInt_saturate hfits]
    exact h

theorem le_apply_accumulate {c x : Int64} (hx : 0 ≤ x) : c ≤ Transform.accumulate.apply c x := by
  have hpos : 0 ≤ x.toInt := Int64.le_iff_toInt_le.mp hx
  exact le_saturate (by linarith)

/-- Once the reading is reached, the rest of the chain does not fall below it. -/
theorem le_combine_replicate {c x : Int64} (hc : 0 ≤ c) (hx : c ≤ x) (n : Nat) :
    c ≤ combine (List.replicate n .accumulate) c x := by
  induction n generalizing x with
  | zero => exact hx
  | succ n ih => exact ih (le_apply_accumulate (Int64.le_trans hc hx))

/-- A chain that is not empty does not fall below the reading. -/
theorem le_combine {c x : Int64} (hc : 0 ≤ c) (hx : 0 ≤ x) (n : Nat) :
    c ≤ combine (List.replicate (n + 1) .accumulate) c x :=
  le_combine_replicate hc (le_apply_accumulate hx) n

/-! ### One use -/

/-- A counter in service. -/
structure Counts (n : Nat) (v : Value) : Prop where
  chained : Chained (n + 1) .never v.peek.toInt v
  nonneg : 0 ≤ v.peek

namespace Counts

variable {n : Nat} {v : Value}

theorem new (n : Nat) : Counts n (chain (n + 1) .never) :=
  ⟨.new (n + 1) .never, Int64.le_refl 0⟩

theorem update (h : Counts n v) {x : Int64} (hx : 0 ≤ x) :
    Counts n (v.update x) ∧ v.peek ≤ (v.update x).peek := by
  have heq : v.update x =
      { v with current := combine (List.replicate (n + 1) .accumulate) v.peek x } := by
    rw [Value.update_eq, h.chained.running, h.chained.transforms]
    rfl
  have hle : v.peek ≤ (v.update x).peek := by
    rw [heq]
    exact le_combine h.nonneg hx n
  refine ⟨⟨?_, Int64.le_trans h.nonneg hle⟩, hle⟩
  rw [heq]
  exact ⟨h.chained.transforms, h.chained.reset, h.chained.running, rfl⟩

theorem read (h : Counts n v) : v.read.2 = v := by
  have hkept : v.reset.afterRead v.current = v.current := by
    rw [h.chained.reset]
    rfl
  show { v with current := v.reset.afterRead v.current } = v
  rw [hkept]

/-- Whatever is done with a counter, its reading does not fall. -/
theorem apply (h : Counts n v) {u : Use} (hu : ∀ x, u = .update x → 0 ≤ x) :
    Counts n (u.apply v) ∧ v.peek ≤ (u.apply v).peek := by
  cases u with
  | update x => exact h.update (hu x rfl)
  | read =>
    rw [Use.apply, h.read]
    exact ⟨h, Int64.le_refl _⟩
  | peek => exact ⟨h, Int64.le_refl _⟩

/-- A run only raises the reading. -/
theorem after (h : Counts n v) {uses : List Use} (huses : ∀ x, .update x ∈ uses → 0 ≤ x) :
    Counts n (v.after uses) ∧ v.peek ≤ (v.after uses).peek := by
  induction uses generalizing v with
  | nil => exact ⟨h, Int64.le_refl _⟩
  | cons u rest ih =>
    have hu : ∀ x, u = .update x → 0 ≤ x := fun x hx ↦ huses x (by simp [hx])
    obtain ⟨hnext, hle⟩ := h.apply hu
    obtain ⟨hlast, hle'⟩ := ih hnext fun x hx ↦ huses x (by simp [hx])
    exact ⟨hlast, Int64.le_trans hle hle'⟩

theorem shown_rise (h : Counts n v) {uses : List Use} (huses : ∀ x, .update x ∈ uses → 0 ≤ x) :
    (v.peek :: v.shown uses).Pairwise (· ≤ ·) := by
  induction uses generalizing v with
  | nil => exact List.pairwise_singleton _ _
  | cons u rest ih =>
    have hu : ∀ x, u = .update x → 0 ≤ x := fun x hx ↦ huses x (by simp [hx])
    obtain ⟨hnext, hle⟩ := h.apply hu
    have hrest := List.pairwise_cons.mp (ih hnext fun x hx ↦ huses x (by simp [hx]))
    have hlower : (v.peek :: (u.apply v).shown rest).Pairwise (· ≤ ·) :=
      List.pairwise_cons.mpr ⟨fun y hy ↦ Int64.le_trans hle (hrest.1 y hy), hrest.2⟩
    have hagain : (v.peek :: v.peek :: (u.apply v).shown rest).Pairwise (· ≤ ·) := by
      refine List.pairwise_cons.mpr ⟨fun y hy ↦ ?_, hlower⟩
      rcases List.mem_cons.mp hy with rfl | hy
      · exact Int64.le_refl _
      · exact (List.pairwise_cons.mp hlower).1 y hy
    cases u with
    | update x => exact hlower
    | read => exact hagain
    | peek => exact hagain

end Counts

/-! ### Whole runs -/

/-- The readings of a value over a run: they start at 0 and never fall, and the greatest integer is
there to stay. -/
structure Rises (uses : List Use) (v : Value) : Prop where
  start : v.peek = 0
  le : ∀ earlier later, earlier <+: later → later <+: uses →
    (v.after earlier).peek ≤ (v.after later).peek
  held : ∀ earlier later, earlier <+: later → later <+: uses →
    (v.after earlier).peek = Int64.maxValue → (v.after later).peek = Int64.maxValue
  /-- So are those that come back, from reads and looks alike. -/
  shown : (0 :: v.shown uses).Pairwise (· ≤ ·)
  shown_held : (v.shown uses).Pairwise fun a b ↦ a = Int64.maxValue → b = Int64.maxValue

theorem eq_maxValue_of_le {a b : Int64} (h : a ≤ b) (ha : a = Int64.maxValue) :
    b = Int64.maxValue :=
  Int64.le_antisymm b.le_maxValue (ha ▸ h)

/-- A counter that is sent no negative number rises. -/
theorem chain_rises {n : Nat} {uses : List Use} (huses : ∀ x, .update x ∈ uses → 0 ≤ x) :
    Rises uses (chain (n + 1) .never) := by
  have hle : ∀ earlier later, earlier <+: later → later <+: uses →
      ((chain (n + 1) .never).after earlier).peek ≤ ((chain (n + 1) .never).after later).peek := by
    rintro earlier _ ⟨more, rfl⟩ ⟨rest, rfl⟩
    have hearlier : ∀ x, .update x ∈ earlier → 0 ≤ x := fun x hx ↦ huses x (by simp [hx])
    rw [Value.after_append]
    exact (((Counts.new n).after hearlier).1.after fun x hx ↦ huses x (by simp [hx])).2
  have hshown := (Counts.new n).shown_rise huses
  exact {
    start := rfl
    le := hle
    held := fun earlier later hprefix huse ↦ eq_maxValue_of_le (hle earlier later hprefix huse)
    shown := hshown
    shown_held := (List.pairwise_cons.mp hshown).2.imp eq_maxValue_of_le }

/-- A counter that adds up twice. An update by zero doubles what it shows, here beyond the greatest
integer. -/
theorem chain_rises_two :
    (∀ x, .update x ∈ [Use.read, .update 4611686018427387904, .peek, .update 0, .read, .update 7,
        .read, .peek] → (0 : Int64) ≤ x) ∧
      Rises [.read, .update 4611686018427387904, .peek, .update 0, .read, .update 7, .read, .peek]
        (chain 2 .never) ∧
      (chain 2 .never).shown [.read, .update 4611686018427387904, .peek, .update 0, .read,
          .update 7, .read, .peek] =
        [0, 4611686018427387904, Int64.maxValue, Int64.maxValue, Int64.maxValue] := by
  have huses : ∀ x, .update x ∈ [Use.read, .update 4611686018427387904, .peek, .update 0, .read,
      .update 7, .read, .peek] → (0 : Int64) ≤ x := by
    simp only [List.mem_cons, List.not_mem_nil, or_false, reduceCtorEq, false_or, Use.update.injEq]
    rintro x (rfl | rfl | rfl) <;> decide
  exact ⟨huses, chain_rises huses, by decide⟩

end TelemetrySim.Live
