import Mathlib.Data.Rat.Floor
import TelemetrySim.Number.Bounds
import TelemetrySim.Proofs.Placeholder
import TelemetrySim.Proofs.Product

/-!
The iterators of a document. An iterator that is written as a range stands for the numbers that a
counter of 64 bits runs through (`lists_numbers64`), so it has no value twice. Each iterator is
checked by four rules in turn, and the room for the values of a range is made behind the first of
them. A list of iterators is accepted exactly if none of them breaks a rule and there is room for
all ranges; else the first one for which this fails decides, by what fails first
(`ofDomains_admits`).
-/

set_option autoImplicit false
set_option relaxedAutoImplicit false

namespace TelemetrySim

open Outcome
open Placeholder (Identifier isIdentChars_iff)

/-! ### Decimal texts -/

namespace Number

theorem natRepr_inj {n m : Nat} (h : n.repr = m.repr) : n = m := by
  rw [Nat.repr_eq_ofList_toDigits, Nat.repr_eq_ofList_toDigits, String.ofList_inj] at h
  have hread := congrArg (Nat.ofDigitChars 10 · 0) h
  simp only [Nat.ofDigitChars_toDigits (b := 10) (by decide) (by decide)] at hread
  exact hread

theorem minus_append_ne_natRepr (s : String) (n : Nat) : "-" ++ s ≠ n.repr := by
  intro h
  have hminus : '-' ∈ n.repr.toList := by simp [← h]
  rw [Nat.repr_eq_ofList_toDigits, String.toList_ofList] at hminus
  have hdigit := Nat.isDigit_of_mem_toDigits (by decide) (by decide) hminus
  simp at hdigit

/-- Different numbers have different texts. -/
theorem toString_int_inj {i j : Int} (h : toString i = toString j) : i = j := by
  rw [Int.toString_eq_repr, Int.toString_eq_repr, Int.repr_eq_if, Int.repr_eq_if] at h
  by_cases hi : 0 ≤ i
  · by_cases hj : 0 ≤ j
    · rw [if_pos hi, if_pos hj] at h
      have habs := natRepr_inj h
      omega
    · rw [if_pos hi, if_neg hj] at h
      exact absurd h.symm (minus_append_ne_natRepr _ _)
  · by_cases hj : 0 ≤ j
    · rw [if_neg hi, if_pos hj] at h
      exact absurd h (minus_append_ne_natRepr _ _)
    · rw [if_neg hi, if_neg hj] at h
      have habs := natRepr_inj ((String.append_right_inj _).mp h)
      omega

end Number

/-! ### Ranges -/

namespace Decl.Range

variable {r : Range}

/-- The number that follows another one: their sum must fit in 64 bits and lie below the end. -/
def next? (r : Range) (n : Int64) : Option Int64 :=
  (Number.int64? (n.toInt + r.step.toInt)).filter (· < r.stop)

/-- Counting from a number on shows these numbers and then stops. -/
inductive Counts (r : Range) : Int64 → List Int64 → Prop
  | last {n : Int64} (h : r.next? n = none) : Counts r n [n]
  | step {n m : Int64} {shown : List Int64} (h : r.next? n = some m) (hrest : Counts r m shown) :
    Counts r n (n :: shown)

/-- The numbers that a range stands for. -/
structure Lists (r : Range) (numbers : List Int64) : Prop where
  /-- No sum on the way to them leaves the 64 bits, except behind the last one. -/
  counted : r.Counts r.start numbers
  toInt_eq : ∀ (k : Nat) (n : Int64),
    numbers[k]? = some n → n.toInt = r.start.toInt + k * r.step.toInt
  mem_iff : ∀ n, n ∈ numbers ↔
    n < r.stop ∧ ∃ k : Nat, n.toInt = r.start.toInt + k * r.step.toInt
  ascending : numbers.Pairwise (· < ·)
  length_eq : (numbers.length : Int) =
    ⌈((r.stop.toInt - r.start.toInt : Int) : ℚ) / (r.step.toInt : ℚ)⌉

/-- The numbers with 64 bits, each by its place. -/
def at64 (r : Range) (k : Nat) : Int64 := Int64.ofInt (r.start.toInt + k * r.step.toInt)

def numbers64 (r : Range) : List Int64 := (List.range r.size).map r.at64

theorem one_le_toInt (hstep : 1 ≤ r.step) : 1 ≤ r.step.toInt :=
  Int64.le_iff_toInt_le.mp hstep

/-- The places are those of the multiples of the step that stay below the end. -/
theorem lt_size_iff (hstep : 1 ≤ r.step) {k : Nat} :
    k < r.size ↔ r.start.toInt + k * r.step.toInt < r.stop.toInt := by
  have hpos := one_le_toInt hstep
  rw [size, Int.lt_toNat, ← Int.add_one_le_iff, Int.le_ediv_iff_mul_le (by omega), Int.add_mul]
  omega

theorem size_pos (hstep : 1 ≤ r.step) (hstart : r.start < r.stop) : 0 < r.size := by
  rw [lt_size_iff hstep]
  simpa using Int64.lt_iff_toInt_lt.mp hstart

/-- A number of the range lies between two numbers of 64 bits, so it has 64 bits itself. -/
theorem toInt_at64 (hstep : 1 ≤ r.step) {k : Nat} (hk : k < r.size) :
    (r.at64 k).toInt = r.start.toInt + k * r.step.toInt := by
  have hpos := one_le_toInt hstep
  have hstop := (lt_size_iff hstep).mp hk
  have hfront : 0 ≤ k * r.step.toInt := Int.mul_nonneg (by omega) (by omega)
  have hlow : -2 ^ 63 ≤ r.start.toInt := r.start.minValue_le_toInt
  have hhigh : r.stop.toInt < 2 ^ 63 := Int64.toInt_lt r.stop
  exact Int64.toInt_ofInt_of_le (by omega) (by omega)

theorem map_toInt_numbers64 (hstep : 1 ≤ r.step) :
    r.numbers64.map Int64.toInt = r.numbers := by
  unfold numbers64 numbers
  rw [List.map_map]
  refine List.map_congr_left fun k hk ↦ ?_
  exact toInt_at64 hstep (List.mem_range.mp hk)

theorem next?_at64 (hstep : 1 ≤ r.step) {k : Nat} (hk : k < r.size) :
    r.next? (r.at64 k) = if k + 1 < r.size then some (r.at64 (k + 1)) else none := by
  have hsum : (r.at64 k).toInt + r.step.toInt =
      r.start.toInt + (k + 1 : Nat) * r.step.toInt := by
    rw [toInt_at64 hstep hk, Int.natCast_add, Int.add_mul]
    omega
  unfold next?
  rw [hsum]
  by_cases hnext : k + 1 < r.size
  · have htoInt := toInt_at64 hstep hnext
    have hbelow : r.at64 (k + 1) < r.stop := by
      rw [Int64.lt_iff_toInt_lt, htoInt]
      exact (lt_size_iff hstep).mp hnext
    rw [if_pos hnext, ← htoInt, Number.int64?_toInt]
    simp [hbelow]
  · rw [if_neg hnext, Option.filter_eq_none_iff]
    intro n hn
    -- Behind the last number the sum does not fit, or it has reached the end.
    have hend := mt (lt_size_iff hstep).mpr hnext
    unfold Number.int64? at hn
    split_ifs at hn with hfits
    obtain rfl := Option.some.inj hn
    simp only [Number.fitsInt64, Bool.and_eq_true, decide_eq_true_eq] at hfits
    have hlow : -2 ^ 63 ≤ r.start.toInt + (k + 1 : Nat) * r.step.toInt := hfits.1
    have hhigh : r.start.toInt + (k + 1 : Nat) * r.step.toInt ≤ 2 ^ 63 - 1 := hfits.2
    rw [decide_eq_true_eq, Int64.lt_iff_toInt_lt, Int64.toInt_ofInt_of_le hlow (by omega)]
    exact hend

/-- Counting on from a place shows the numbers from there. -/
theorem counts_from (hstep : 1 ≤ r.step) (k rest : Nat) (hsize : r.size = k + rest + 1) :
    r.Counts (r.at64 k) ((List.range' k (rest + 1)).map r.at64) := by
  induction rest generalizing k with
  | zero =>
    have hnext := next?_at64 hstep (k := k) (by omega)
    rw [if_neg (by omega)] at hnext
    exact .last hnext
  | succ rest ih =>
    have hnext := next?_at64 hstep (k := k) (by omega)
    rw [if_pos (by omega)] at hnext
    rw [List.range'_succ, List.map_cons]
    exact .step hnext (ih (k + 1) (by omega))

theorem at64_zero : r.at64 0 = r.start := by
  unfold at64
  rw [Int.natCast_zero, Int.zero_mul, Int.add_zero, Int64.ofInt_toInt]

theorem mem_numbers64_iff (hstep : 1 ≤ r.step) {n : Int64} :
    n ∈ r.numbers64 ↔ n < r.stop ∧ ∃ k : Nat, n.toInt = r.start.toInt + k * r.step.toInt := by
  unfold numbers64
  rw [List.mem_map]
  constructor
  · rintro ⟨k, hk, rfl⟩
    have hk := List.mem_range.mp hk
    have htoInt := toInt_at64 hstep hk
    refine ⟨?_, k, htoInt⟩
    rw [Int64.lt_iff_toInt_lt, htoInt]
    exact (lt_size_iff hstep).mp hk
  · rintro ⟨hbelow, k, hn⟩
    have hk : k < r.size := by
      rw [lt_size_iff hstep, ← hn]
      exact Int64.lt_iff_toInt_lt.mp hbelow
    refine ⟨k, List.mem_range.mpr hk, ?_⟩
    rw [← Int64.toInt_inj, toInt_at64 hstep hk, hn]

theorem pairwise_numbers64 (hstep : 1 ≤ r.step) : r.numbers64.Pairwise (· < ·) := by
  unfold numbers64
  rw [List.pairwise_map]
  refine List.pairwise_lt_range.imp_of_mem fun {i j} hi hj hij ↦ ?_
  rw [Int64.lt_iff_toInt_lt, toInt_at64 hstep (List.mem_range.mp hi),
    toInt_at64 hstep (List.mem_range.mp hj)]
  have hpos := one_le_toInt hstep
  have hmul : (i : Int) * r.step.toInt < j * r.step.toInt :=
    Int.mul_lt_mul_of_pos_right (by omega) (by omega)
  omega

/-- The last number lies below the end, and another step reaches it. -/
theorem size_eq_ceil (hstep : 1 ≤ r.step) (hstart : r.start < r.stop) :
    (r.size : Int) = ⌈((r.stop.toInt - r.start.toInt : Int) : ℚ) / (r.step.toInt : ℚ)⌉ := by
  have hpos : (0 : ℚ) < r.step.toInt := by exact_mod_cast one_le_toInt hstep
  have hfirst := size_pos hstep hstart
  have hlast : ((r.size : Int) - 1) * r.step.toInt < r.stop.toInt - r.start.toInt := by
    have hbelow := (lt_size_iff hstep (k := r.size - 1)).mp (by omega)
    rw [Nat.cast_pred hfirst] at hbelow
    omega
  have hend : r.stop.toInt - r.start.toInt ≤ r.size * r.step.toInt := by
    have hreached := mt (lt_size_iff hstep (k := r.size)).mpr (Nat.lt_irrefl _)
    omega
  rw [eq_comm, Int.ceil_eq_iff, lt_div_iff₀ hpos, div_le_iff₀ hpos]
  exact ⟨by exact_mod_cast hlast, by exact_mod_cast hend⟩

/-- A range that is not empty stands for its numbers with 64 bits. -/
theorem lists_numbers64 (hstep : 1 ≤ r.step) (hstart : r.start < r.stop) :
    r.Lists r.numbers64 where
  counted := by
    have hfirst := size_pos hstep hstart
    have hcounts := counts_from hstep 0 (r.size - 1) (by omega)
    rw [at64_zero, Nat.sub_add_cancel hfirst, ← List.range_eq_range'] at hcounts
    exact hcounts
  toInt_eq := by
    intro k n hn
    obtain ⟨hk, rfl⟩ := List.getElem?_eq_some_iff.mp hn
    simp only [numbers64, List.getElem_map, List.getElem_range]
    simp only [numbers64, List.length_map, List.length_range] at hk
    exact toInt_at64 hstep hk
  mem_iff _ := mem_numbers64_iff hstep
  ascending := pairwise_numbers64 hstep
  length_eq := by
    rw [numbers64, List.length_map, List.length_range]
    exact size_eq_ceil hstep hstart

theorem numbers64_ne_nil (hstep : 1 ≤ r.step) (hstart : r.start < r.stop) :
    r.numbers64 ≠ [] := by
  have hfirst := size_pos hstep hstart
  rw [numbers64, ne_eq, List.map_eq_nil_iff, List.range_eq_nil]
  omega

theorem size_eq_zero (hstep : 1 ≤ r.step) (hstart : r.stop ≤ r.start) : r.size = 0 := by
  by_contra hsize
  have hfirst := (lt_size_iff hstep (k := 0)).mp (by omega)
  have horder := Int64.le_iff_toInt_le.mp hstart
  omega

theorem Lists.nodup_texts {numbers : List Int64} (h : r.Lists numbers) :
    (numbers.map fun n ↦ toString n.toInt).Nodup := by
  refine List.pairwise_map.mpr (h.ascending.imp fun {n m} hnm heq ↦ ?_)
  exact Int64.ne_of_lt hnm (Int64.toInt_inj.mp (Number.toString_int_inj heq))

end Decl.Range

/-! ### Rules for iterators -/

namespace Decl

/-- The texts that a domain stands for. -/
inductive Domain.Spells : Domain → List String → Prop
  | values (items : List Scalar) : Spells (.values items) (items.map Scalar.render)
  | range {r : Range} {numbers : List Int64} (h : r.Lists numbers) :
    Spells (.range r) (numbers.map fun n ↦ toString n.toInt)

/-- There are values, and no two of them have the same text. -/
def Domain.WellFormed : Domain → Prop
  | .values items => items ≠ [] ∧ (items.map Scalar.render).Nodup
  | .range r => 1 ≤ r.step ∧ r.start < r.stop

/-- The step of a range goes upwards. -/
def Domain.Ascends : Domain → Prop
  | .values _ => True
  | .range r => 1 ≤ r.step

theorem Domain.WellFormed.ascends {domain : Domain} (h : domain.WellFormed) : domain.Ascends := by
  cases domain with
  | values items => trivial
  | range r => exact h.1

/-- There is room for the texts of a range. -/
def Domain.Fits : Domain → Prop
  | .values _ => True
  | .range r => ⌈((r.stop.toInt - r.start.toInt : Int) : ℚ) / (r.step.toInt : ℚ)⌉ ≤ textsLimit

theorem Domain.fits_iff {r : Range} (hstep : 1 ≤ r.step) :
    (Domain.range r).Fits ↔ r.size ≤ textsLimit := by
  change ⌈((r.stop.toInt - r.start.toInt : Int) : ℚ) / (r.step.toInt : ℚ)⌉ ≤ textsLimit ↔ _
  by_cases hstart : r.start < r.stop
  · rw [← Range.size_eq_ceil hstep hstart, Int.ofNat_le]
  · have horder : r.stop ≤ r.start := Int64.not_lt.mp hstart
    have hpos : (0 : ℚ) ≤ r.step.toInt := by
      exact_mod_cast (Int.le_of_lt (Range.one_le_toInt hstep) : (0 : Int) ≤ r.step.toInt)
    have hdistance : ((r.stop.toInt - r.start.toInt : Int) : ℚ) ≤ 0 := by
      exact_mod_cast Int.sub_nonpos_of_le (Int64.le_iff_toInt_le.mp horder)
    rw [Range.size_eq_zero hstep horder, Int.ceil_le]
    refine iff_of_true ?_ (Nat.zero_le _)
    exact (div_nonpos_of_nonpos_of_nonneg hdistance hpos).trans (by positivity)

/-- There is nothing in the domain. -/
def Domain.Vacant : Domain → Prop
  | .values items => items = []
  | .range r => r.stop ≤ r.start

/-- What is wrong with an iterator: the rules are for the step, for the name, against an empty domain
and against repeated values, and those in front are kept. There may be no room for a range that
keeps the first of them. -/
inductive Domain.Breaks (name : String) : Domain → ExpansionFailure → Prop
  | step {r : Range} (hstep : ¬ 1 ≤ r.step) :
    Breaks name (.range r) (.refused (.invalidStep name r.step))
  | room {r : Range} (hstep : 1 ≤ r.step) (hroom : ¬ (Domain.range r).Fits) :
    Breaks name (.range r) (.panicked .capacity)
  | name {domain : Domain} (hstep : domain.Ascends) (hroom : domain.Fits)
    (hname : ¬ Identifier name.toList) : Breaks name domain (.refused (.invalidName name))
  | vacant {domain : Domain} (hstep : domain.Ascends) (hroom : domain.Fits)
    (hname : Identifier name.toList) (hvacant : domain.Vacant) :
    Breaks name domain (.refused (.empty name))
  | repeated {items : List Scalar} {front back : List String} {v : String}
    (hname : Identifier name.toList) (hitems : items.map Scalar.render = front ++ v :: back)
    (hfront : front.Nodup) (hv : v ∈ front) :
    Breaks name (.values items) (.refused (.duplicate name v))

end Decl

/-! ### Single declarations -/

theorem firstRepeated_eq_none_iff {seen values : List String} :
    firstRepeated seen values = none ↔ values.Nodup ∧ ∀ v ∈ values, v ∉ seen := by
  induction values generalizing seen with
  | nil => simp [firstRepeated]
  | cons v rest ih =>
    unfold firstRepeated
    by_cases hv : v ∈ seen
    · simp [hv]
    · rw [if_neg hv, ih]
      grind

/-- The value that is found occurs before or has been seen, and no value in front of it does. -/
theorem firstRepeated_eq_some_iff {seen values : List String} {v : String} :
    firstRepeated seen values = some v ↔
      ∃ front back, values = front ++ v :: back ∧ (v ∈ front ∨ v ∈ seen) ∧
        firstRepeated seen front = none := by
  induction values generalizing seen with
  | nil => simp [firstRepeated]
  | cons w rest ih =>
    by_cases hw : w ∈ seen
    · have hfirst : firstRepeated seen (w :: rest) = some w := by rw [firstRepeated, if_pos hw]
      rw [hfirst, Option.some_inj]
      constructor
      · rintro rfl
        exact ⟨[], rest, rfl, .inr hw, rfl⟩
      · rintro ⟨front, back, hsplit, -, hfront⟩
        cases front with
        | nil => exact (List.cons.inj hsplit).1
        | cons u front =>
          obtain ⟨rfl, -⟩ := List.cons.inj hsplit
          simp [firstRepeated, hw] at hfront
    · have hbehind : ∀ l, firstRepeated seen (w :: l) = firstRepeated (w :: seen) l := by
        intro l
        rw [firstRepeated, if_neg hw]
      rw [hbehind, ih]
      constructor
      · rintro ⟨front, back, rfl, hv, hfront⟩
        refine ⟨w :: front, back, rfl, ?_, by rwa [hbehind]⟩
        grind
      · rintro ⟨front, back, hsplit, hv, hfront⟩
        cases front with
        | nil =>
          obtain ⟨rfl, -⟩ := List.cons.inj hsplit
          simp [hw] at hv
        | cons u front =>
          obtain ⟨rfl, rfl⟩ := List.cons.inj hsplit
          refine ⟨front, back, rfl, ?_, by rwa [hbehind] at hfront⟩
          grind

namespace Registry

variable {r r' : Registry} {name : String} {values : List String}

theorem declare_eq_ok_iff :
    r.declare name values = .ok r' ↔
      (Identifier name.toList ∧ values ≠ [] ∧ values.Nodup) ∧
        ⟨Assoc.insert name values r.domains⟩ = r' := by
  rw [declare, Text.isIdent, ← isIdentChars_iff]
  by_cases hname : Text.isIdentChars name.toList
  · by_cases hvalues : values = []
    · simp [hname, hvalues]
    · have hrule : firstRepeated [] values = none ↔ values.Nodup ∧ ∀ v ∈ values, v ∉ [] :=
        firstRepeated_eq_none_iff
      cases hrepeated : firstRepeated [] values with
      | none =>
        have hnodup : values.Nodup := (hrule.mp hrepeated).1
        simp [hname, hvalues, hnodup]
      | some v =>
        have hnodup : ¬ values.Nodup := by simpa [hrepeated] using hrule
        simp [hname, hvalues, hnodup]
  · simp [hname]

/-- Why texts are not accepted as the values of an iterator. -/
inductive Refuses (name : String) : List String → ExpansionError → Prop
  | name {values : List String} (h : ¬ Identifier name.toList) :
    Refuses name values (.invalidName name)
  | vacant (hname : Identifier name.toList) : Refuses name [] (.empty name)
  | repeated {front back : List String} {v : String} (hname : Identifier name.toList)
    (hfront : front.Nodup) (hv : v ∈ front) :
    Refuses name (front ++ v :: back) (.duplicate name v)

theorem declare_eq_error_iff {e : ExpansionError} :
    r.declare name values = .error e ↔ Refuses name values e := by
  rw [declare, Text.isIdent]
  constructor
  · intro h
    by_cases hname : Text.isIdentChars name.toList
    · rw [hname] at h
      have hidentifier := isIdentChars_iff.mp hname
      cases values with
      | nil =>
        obtain rfl := Except.error.inj h
        exact .vacant hidentifier
      | cons w rest =>
        cases hrepeated : firstRepeated [] (w :: rest) with
        | none => simp [hrepeated] at h
        | some v =>
          simp only [hrepeated] at h
          obtain rfl := Except.error.inj h
          obtain ⟨front, back, hsplit, hv, hfront⟩ := firstRepeated_eq_some_iff.mp hrepeated
          rw [hsplit]
          exact .repeated hidentifier (firstRepeated_eq_none_iff.mp hfront).1 (by simpa using hv)
    · simp only [hname] at h
      obtain rfl := Except.error.inj h
      exact .name (mt isIdentChars_iff.mpr hname)
  · intro h
    cases h with
    | name h => simp [mt isIdentChars_iff.mp h]
    | vacant hname => simp [isIdentChars_iff.mpr hname]
    | @repeated front back v hname hfront hv =>
      have hrepeated : firstRepeated [] (front ++ v :: back) = some v :=
        firstRepeated_eq_some_iff.mpr
          ⟨front, back, rfl, .inl hv, firstRepeated_eq_none_iff.mpr ⟨hfront, by simp⟩⟩
      simp [isIdentChars_iff.mpr hname, hrepeated]

/-! ### Iterators of a document -/

open Decl (textsLimit)

variable {e : ExpansionFailure}

theorem texts_range {rg : Decl.Range} (hstep : 1 ≤ rg.step) :
    (Decl.Domain.range rg).texts name =
      if textsLimit < rg.size then .error (.panicked .capacity)
      else .ok (rg.numbers64.map fun n ↦ toString n.toInt) := by
  have hpos : ¬ rg.step ≤ 0 := by
    have hone := Decl.Range.one_le_toInt hstep
    rw [Int64.le_iff_toInt_le, Int64.toInt_zero]
    omega
  rw [Decl.Domain.texts, if_neg hpos, ← Decl.Range.map_toInt_numbers64 hstep, List.map_map]
  rfl

theorem texts_range_error {rg : Decl.Range} (hstep : ¬ 1 ≤ rg.step) :
    (Decl.Domain.range rg).texts name = .error (.refused (.invalidStep name rg.step)) := by
  have hpos : rg.step ≤ 0 := by
    rw [Int64.le_iff_toInt_le, Int64.toInt_one] at hstep
    rw [Int64.le_iff_toInt_le, Int64.toInt_zero]
    omega
  rw [Decl.Domain.texts, if_pos hpos]

theorem texts_range_eq_ok_iff {rg : Decl.Range} :
    (Decl.Domain.range rg).texts name = .ok values ↔
      1 ≤ rg.step ∧ (Decl.Domain.range rg).Fits ∧
        rg.numbers64.map (fun n ↦ toString n.toInt) = values := by
  by_cases hstep : 1 ≤ rg.step
  · rw [texts_range hstep, Decl.Domain.fits_iff hstep]
    by_cases hsize : textsLimit < rg.size
    · simp [hsize]
    · simp [hsize, hstep, Nat.not_lt.mp hsize]
  · simp [texts_range_error hstep, hstep]

theorem texts_range_eq_error_iff {rg : Decl.Range} :
    (Decl.Domain.range rg).texts name = .error e ↔
      ¬ 1 ≤ rg.step ∧ .refused (.invalidStep name rg.step) = e ∨
        1 ≤ rg.step ∧ ¬ (Decl.Domain.range rg).Fits ∧ .panicked .capacity = e := by
  by_cases hstep : 1 ≤ rg.step
  · rw [texts_range hstep, Decl.Domain.fits_iff hstep]
    by_cases hsize : textsLimit < rg.size
    · simp [hsize, hstep]
    · simp [hsize, hstep]
  · simp [texts_range_error hstep, Int64.not_le.mp hstep]

/-- Declaring an iterator of the document, with the values that it stands for. -/
def declareDomain (r : Registry) (name : String) (domain : Decl.Domain) :
    Except ExpansionFailure Registry :=
  domain.texts name >>= fun values ↦ (r.declare name values).mapError .refused

theorem ofDomains_eq_foldlM (iterators : List (String × Decl.Domain)) :
    ofDomains iterators = iterators.foldlM (fun r p ↦ r.declareDomain p.1 p.2) {} :=
  rfl

/-- The texts of a domain that says what it should, and what they have to do with its rules. -/
theorem texts_ok {domain : Decl.Domain} (h : domain.texts name = .ok values) :
    (domain.Ascends ∧ domain.Fits) ∧ (domain.WellFormed ↔ values ≠ [] ∧ values.Nodup) ∧
      (domain.WellFormed → domain.Spells values) ∧ (domain.Vacant ↔ values = []) := by
  cases domain with
  | values items =>
    obtain rfl := Except.ok.inj h
    refine ⟨⟨trivial, trivial⟩, ?_, fun _ ↦ .values items, List.map_eq_nil_iff.symm⟩
    rw [ne_eq, List.map_eq_nil_iff]
    exact Iff.rfl
  | range rg =>
    obtain ⟨hstep, hroom, rfl⟩ := texts_range_eq_ok_iff.mp h
    refine ⟨⟨hstep, hroom⟩, ?_⟩
    by_cases hstart : rg.start < rg.stop
    · have hlists := rg.lists_numbers64 hstep hstart
      have hsome : rg.numbers64 ≠ [] := rg.numbers64_ne_nil hstep hstart
      have hvacant : ¬ rg.stop ≤ rg.start := Int64.not_le.mpr hstart
      refine ⟨iff_of_true ⟨hstep, hstart⟩ ⟨by simpa using hsome, hlists.nodup_texts⟩,
        fun _ ↦ .range hlists, iff_of_false hvacant (by simpa using hsome)⟩
    · have hvacant : rg.stop ≤ rg.start := Int64.not_lt.mp hstart
      have hnone : rg.numbers64 = [] := by
        rw [Decl.Range.numbers64, Decl.Range.size_eq_zero hstep hvacant]
        rfl
      have hmalformed : ¬ (Decl.Domain.range rg).WellFormed := fun hwell ↦ hstart hwell.2
      rw [hnone]
      exact ⟨iff_of_false hmalformed (by simp), fun hwell ↦ absurd hwell hmalformed,
        iff_of_true hvacant rfl⟩

/-- The texts of a range are none at all or all different. -/
theorem nodup_of_texts_range {rg : Decl.Range}
    (h : (Decl.Domain.range rg).texts name = .ok values) : values.Nodup := by
  obtain ⟨⟨hstep, -⟩, hwell, -, hvacant⟩ := texts_ok h
  by_cases hstart : rg.start < rg.stop
  · exact (hwell.mp ⟨hstep, hstart⟩).2
  · obtain rfl := hvacant.mp (Int64.not_lt.mp hstart)
    exact List.nodup_nil

theorem exists_texts (name : String) {domain : Decl.Domain} (hstep : domain.Ascends)
    (hroom : domain.Fits) : ∃ values, domain.texts name = .ok values := by
  cases domain with
  | values items => exact ⟨_, rfl⟩
  | range rg => exact ⟨_, texts_range_eq_ok_iff.mpr ⟨hstep, hroom, rfl⟩⟩

/-- Whether an iterator keeps the rules does not depend on those that are declared already. -/
theorem exists_declareDomain_iff (r : Registry) (p : String × Decl.Domain) :
    (∃ r', r.declareDomain p.1 p.2 = .ok r') ↔
      Identifier p.1.toList ∧ p.2.WellFormed ∧ p.2.Fits := by
  constructor
  · rintro ⟨r', h⟩
    obtain ⟨values, hvalues, h⟩ := bind_eq_ok_iff.mp h
    obtain ⟨⟨hname, hrules⟩, -⟩ := declare_eq_ok_iff.mp (mapError_eq_ok_iff.mp h)
    obtain ⟨⟨-, hroom⟩, hwell, -, -⟩ := texts_ok hvalues
    exact ⟨hname, hwell.mpr hrules, hroom⟩
  · rintro ⟨hname, hwell, hroom⟩
    obtain ⟨values, hvalues⟩ := exists_texts p.1 hwell.ascends hroom
    have hrules := (texts_ok hvalues).2.1.mp hwell
    have hdeclare := (declare_eq_ok_iff (r := r)).mpr ⟨⟨hname, hrules⟩, rfl⟩
    exact ⟨_, bind_eq_ok_iff.mpr ⟨values, hvalues, mapError_eq_ok_iff.mpr hdeclare⟩⟩

theorem declareDomain_eq_error_iff {domain : Decl.Domain} :
    r.declareDomain name domain = .error e ↔ domain.Breaks name e := by
  rw [declareDomain, bind_eq_error_iff]
  simp only [mapError_eq_error_iff, declare_eq_error_iff]
  constructor
  · rintro (h | ⟨values, hvalues, c, h, rfl⟩)
    · cases domain with
      | values items => simp [Decl.Domain.texts] at h
      | range rg =>
        rcases texts_range_eq_error_iff.mp h with ⟨hstep, rfl⟩ | ⟨hstep, hroom, rfl⟩
        · exact .step hstep
        · exact .room hstep hroom
    · obtain ⟨⟨hstep, hroom⟩, -, -, hvacant⟩ := texts_ok hvalues
      cases h with
      | name hname => exact .name hstep hroom hname
      | vacant hname => exact .vacant hstep hroom hname (hvacant.mpr rfl)
      | @repeated front back v hname hfront hv =>
        cases domain with
        | values items => exact .repeated hname (Except.ok.inj hvalues) hfront hv
        | range rg =>
          have hnodup := nodup_of_texts_range hvalues
          rw [List.nodup_append] at hnodup
          exact absurd rfl (hnodup.2.2 v hv v (by simp))
  · intro h
    cases h with
    | step hstep => exact .inl (texts_range_eq_error_iff.mpr (.inl ⟨hstep, rfl⟩))
    | room hstep hroom => exact .inl (texts_range_eq_error_iff.mpr (.inr ⟨hstep, hroom, rfl⟩))
    | name hstep hroom hname =>
      obtain ⟨values, hvalues⟩ := exists_texts name hstep hroom
      exact .inr ⟨values, hvalues, _, .name hname, rfl⟩
    | vacant hstep hroom hname hvacant =>
      obtain ⟨values, hvalues⟩ := exists_texts name hstep hroom
      obtain rfl := (texts_ok hvalues).2.2.2.mp hvacant
      exact .inr ⟨[], hvalues, _, .vacant hname, rfl⟩
    | repeated hname hitems hfront hv =>
      exact .inr ⟨_, congrArg Except.ok hitems, _, .repeated hname hfront hv, rfl⟩

/-- The last iterator is declared in the registry of those in front. -/
theorem ofDomains_concat_iff {iterators : List (String × Decl.Domain)}
    {p : String × Decl.Domain} :
    ofDomains (iterators ++ [p]) = .ok r ↔
      ∃ before values, ofDomains iterators = .ok before ∧ p.2.texts p.1 = .ok values ∧
        before.declare p.1 values = .ok r := by
  simp only [ofDomains_eq_foldlM, List.foldlM_append, List.foldlM_cons, List.foldlM_nil, bind_pure,
    declareDomain, bind_eq_ok_iff, mapError_eq_ok_iff, ← exists_and_left]

/-- The registry that a list of iterators gives is built by declaring what each of them stands
for. -/
theorem ofCalls_of_ofDomains {iterators : List (String × Decl.Domain)}
    (h : ofDomains iterators = .ok r) :
    ∃ calls, List.Forall₂ (fun p q ↦ q.1 = p.1 ∧ p.2.Spells q.2) iterators calls ∧
      ofCalls calls = .ok r := by
  induction iterators using List.reverseRecOn generalizing r with
  | nil => exact ⟨[], .nil, congrArg Except.ok (Except.ok.inj h)⟩
  | append_singleton iterators p ih =>
    obtain ⟨before, values, hbefore, hvalues, hdeclare⟩ := ofDomains_concat_iff.mp h
    obtain ⟨calls, hcalls, hbuilt⟩ := ih hbefore
    have hwell : p.2.WellFormed := (texts_ok hvalues).2.1.mpr (declare_eq_ok_iff.mp hdeclare).1.2
    refine ⟨calls ++ [(p.1, values)], ?_, ?_⟩
    · exact List.rel_append hcalls (.cons ⟨rfl, (texts_ok hvalues).2.2.1 hwell⟩ .nil)
    · rw [ofCalls, List.foldlM_append]
      refine bind_eq_ok_iff.mpr ⟨before, hbuilt, ?_⟩
      exact bind_eq_ok_iff.mpr ⟨r, hdeclare, rfl⟩

/-- Under different names every declaration stays. -/
theorem domains_of_ofCalls {calls : List (String × List String)} (h : ofCalls calls = .ok r)
    (hnames : (calls.map (·.1)).Nodup) : r.domains = calls := by
  induction calls using List.reverseRecOn generalizing r with
  | nil =>
    obtain rfl := Except.ok.inj h
    rfl
  | append_singleton calls call ih =>
    rw [ofCalls, List.foldlM_append] at h
    obtain ⟨before, hbefore, h⟩ := bind_eq_ok_iff.mp h
    obtain ⟨after, hcall, hafter⟩ := bind_eq_ok_iff.mp h
    obtain rfl := Except.ok.inj hafter
    rw [List.map_append, List.nodup_append] at hnames
    have hnew : call.1 ∉ Assoc.keys calls := fun hmem ↦ hnames.2.2 _ hmem _ (by simp) rfl
    rw [domains_of_declare hcall, ih hbefore hnames.1]
    exact Assoc.insert_of_notMem hnew call.2

/-- When a list of iterators is accepted, with which domains, and what is said if it is not. -/
structure Admits (iterators : List (String × Decl.Domain)) : Prop where
  accepted_iff : (∃ r, ofDomains iterators = .ok r) ↔
    ∀ p ∈ iterators, Identifier p.1.toList ∧ p.2.WellFormed ∧ p.2.Fits
  domains : ∀ r, ofDomains iterators = .ok r →
    List.Forall₂ (fun p q ↦ q.1 = p.1 ∧ p.2.Spells q.2) iterators r.domains
  refused_iff : ∀ e, ofDomains iterators = .error e ↔
    ∃ front p back, iterators = front ++ p :: back ∧
      (∀ q ∈ front, Identifier q.1.toList ∧ q.2.WellFormed ∧ q.2.Fits) ∧ p.2.Breaks p.1 e

/-- The iterators of a document, each name once, are accepted if each of them keeps the rules and
there is room for its values, and then have their domains; else the first for which this fails
decides. -/
theorem ofDomains_admits {iterators : List (String × Decl.Domain)}
    (hnames : (iterators.map (·.1)).Nodup) : Admits iterators where
  accepted_iff := by
    rw [ofDomains_eq_foldlM]
    exact exists_foldlM_iff exists_declareDomain_iff
  domains := by
    intro r hr
    obtain ⟨calls, hcalls, hbuilt⟩ := ofCalls_of_ofDomains hr
    have hsame : calls.map (·.1) = iterators.map (·.1) :=
      Pairing.map_eq (fun _ _ hpq ↦ hpq.1) hcalls
    rw [domains_of_ofCalls hbuilt (hsame ▸ hnames)]
    exact hcalls
  refused_iff := by
    intro e
    rw [ofDomains_eq_foldlM]
    exact foldlM_eq_error_iff (E := fun p e ↦ p.2.Breaks p.1 e) exists_declareDomain_iff
      fun _ _ _ ↦ declareDomain_eq_error_iff

end Registry

/-! ### A demonstration

A range from the least number of 64 bits to the greatest one, with the greatest one for its step, and
one with as many numbers as there is room for. In the second list the second iterator breaks the rule
for names as well, but that for steps comes first. The third list has a range of all numbers of 64
bits but one. -/

namespace Demo

open Decl (Domain)

def reach : List (String × Domain) :=
  [("reach", .range ⟨Int64.minValue, Int64.maxValue, Int64.maxValue⟩),
    ("zone", .values [.text "east", .integer 5, .boolean true])]

def stepless : List (String × Domain) :=
  [("zone", .values [.text "east"]), ("2nd", .range ⟨0, 9, 0⟩), ("zones", .values [])]

def longest : Domain := .range ⟨-5, 384307168202282320, 1⟩

def horizon : Domain := .range ⟨Int64.minValue, Int64.maxValue, 1⟩

theorem reach_admitted :
    ((reach.map (·.1)).Nodup ∧ Registry.Admits reach ∧
      Registry.ofDomains reach = .ok ⟨[
        ("reach", ["-9223372036854775808", "-1", "9223372036854775806"]),
        ("zone", ["east", "5", "true"])]⟩) ∧
      ((stepless.map (·.1)).Nodup ∧
        Registry.ofDomains stepless = .error (.refused (.invalidStep "2nd" 0))) ∧
      (∃ r, Registry.ofDomains [("longest", longest)] = .ok r) ∧
      Registry.ofDomains [("longest", longest), ("horizon", horizon)] =
        .error (.panicked .capacity) := by
  have hreach : (reach.map (·.1)).Nodup := by decide
  have hstepless : (stepless.map (·.1)).Nodup := by decide
  have hlongest : Identifier "longest".toList ∧ longest.WellFormed ∧ longest.Fits := by
    refine ⟨isIdentChars_iff.mp (by decide), ?_, ?_⟩
    · unfold longest Domain.WellFormed
      decide
    · exact (Domain.fits_iff (by decide)).mpr (by decide)
  refine ⟨⟨hreach, Registry.ofDomains_admits hreach, by with_unfolding_all rfl⟩,
    ⟨hstepless, ?_⟩, ?_, ?_⟩
  · refine ((Registry.ofDomains_admits hstepless).refused_iff _).mpr
      ⟨[("zone", .values [.text "east"])], _, [("zones", .values [])], rfl, ?_, .step (by decide)⟩
    refine List.forall_mem_singleton.mpr ⟨isIdentChars_iff.mp (by decide), ⟨by simp, ?_⟩, trivial⟩
    decide
  · refine (Registry.ofDomains_admits (by decide)).accepted_iff.mpr ?_
    exact List.forall_mem_singleton.mpr hlongest
  · refine ((Registry.ofDomains_admits (by decide)).refused_iff _).mpr
      ⟨[("longest", longest)], _, [], rfl, List.forall_mem_singleton.mpr hlongest,
        .room (by decide) ?_⟩
    exact (Domain.fits_iff (by decide)).not.mpr (by decide)

/-- The range keeps all rules, and yet the program panics for it. -/
theorem horizon_panics :
    Identifier "horizon".toList ∧ horizon.WellFormed ∧
      Registry.ofDomains [("horizon", horizon)] = .error (.panicked .capacity) :=
  ⟨isIdentChars_iff.mp (by decide), by unfold horizon Domain.WellFormed; decide,
    by with_unfolding_all rfl⟩

end Demo

end TelemetrySim
