import Mathlib.Algebra.BigOperators.Group.List.Basic
import Mathlib.Algebra.Order.Ring.Int
import Mathlib.Data.List.DropRight
import Mathlib.Data.List.Infix
import Mathlib.Tactic.Linarith
import Mathlib.Tactic.Ring
import TelemetrySim.Number.Bounds
import TelemetrySim.Proofs.Live.Updates

/-!
Values that add up what they are sent. As long as no number leaves the 64 bits, a value that goes
through `accumulate` any number of times computes exactly (`chained_after`): each update is added to
the `n`-fold of the reading that it meets. With `accumulate` once this is the running sum since the
last reset, and what was read and what is still there balance what was sent
(`accumulator_conserves`). With `accumulate` twice or more it is the running sum only as long as
every update meets a running sum of zero (`chain_compounds`).
-/

set_option autoImplicit false
set_option relaxedAutoImplicit false

namespace TelemetrySim.Live

/-! ### Uses of a value -/

/-- What is done with a value that is in service. -/
inductive Use where
  | update (x : Int64)
  | read
  | peek
deriving DecidableEq

namespace Use

def apply (v : Value) : Use → Value
  | update x => v.update x
  | read => v.read.2
  | peek => v

/-- The readings that are taken: one by a read, none otherwise. -/
def taken (v : Value) : Use → List Int64
  | read => [v.read.1]
  | _ => []

def number? : Use → Option Int
  | update x => some x.toInt
  | _ => none

/-- All numbers that are sent. -/
def numbers (uses : List Use) : List Int := uses.filterMap number?

/-- The uses since the last read. -/
def sinceRead (uses : List Use) : List Use := uses.rtakeWhile (· ≠ .read)

theorem numbers_concat (uses : List Use) (u : Use) :
    numbers (uses ++ [u]) = numbers uses ++ u.number?.toList := by
  cases u <;> simp [numbers, number?]

end Use

namespace Value

def after (uses : List Use) (v : Value) : Value := uses.foldl Use.apply v

/-- All readings that are taken. -/
def readings (uses : List Use) (v : Value) : List Int64 := noted Use.apply Use.taken uses v

theorem after_concat (uses : List Use) (u : Use) (v : Value) :
    v.after (uses ++ [u]) = u.apply (v.after uses) :=
  List.foldl_concat ..

theorem readings_append (uses more : List Use) (v : Value) :
    v.readings (uses ++ more) = v.readings uses ++ (v.after uses).readings more :=
  noted_append ..

theorem readings_concat (uses : List Use) (u : Use) (v : Value) :
    v.readings (uses ++ [u]) = v.readings uses ++ u.taken (v.after uses) := by
  rw [readings_append]
  exact congrArg (v.readings uses ++ ·) (List.append_nil _)

/-- There is one reading for each read. -/
theorem length_readings (uses : List Use) (v : Value) :
    (v.readings uses).length = uses.count .read := by
  induction uses using List.reverseRecOn with
  | nil => rfl
  | append_singleton uses u ih =>
    rw [readings_concat, List.length_append, ih, List.count_append]
    cases u <;> rfl

/-- The reading that a read takes is the one that the value shows before it. -/
theorem getElem?_readings (before after : List Use) (v : Value) :
    (v.readings (before ++ .read :: after))[before.count .read]? =
      some (v.after before).peek := by
  rw [readings_append, ← length_readings before v, List.getElem?_append_right (le_refl _),
    Nat.sub_self]
  rfl

end Value

/-! ### What a chain computes -/

namespace ResetPolicy

/-- The uses that a reading accounts for. -/
def span (uses : List Use) : ResetPolicy → List Use
  | never => uses
  | onRead _ => Use.sinceRead uses

/-- The running sum: the first reading, or the one after the last reset, and all that was sent
since. -/
def sum (uses : List Use) (p : ResetPolicy) : Int :=
  p.initial.toInt + (Use.numbers (p.span uses)).sum

/-- The running sum in which each number that is sent meets the `n`-fold of what is there. -/
def compound (n : Nat) (uses : List Use) (p : ResetPolicy) : Int :=
  (Use.numbers (p.span uses)).foldl (fun s x ↦ n * s + x) p.initial.toInt

variable {n : Nat} {p : ResetPolicy}

theorem span_nil (p : ResetPolicy) : p.span [] = [] := by
  cases p <;> rfl

theorem span_concat (uses : List Use) {u : Use} (hu : u ≠ .read) :
    p.span (uses ++ [u]) = p.span uses ++ [u] := by
  cases p with
  | never => rfl
  | onRead r => exact List.rtakeWhile_concat_pos _ _ _ (decide_eq_true hu)

theorem span_read (uses : List Use) (r : Int64) : (onRead r).span (uses ++ [.read]) = [] :=
  List.rtakeWhile_concat_neg _ _ _ (by simp)

theorem compound_nil (n : Nat) (p : ResetPolicy) : p.compound n [] = p.initial.toInt := by
  rw [compound, span_nil]
  rfl

theorem compound_update (n : Nat) (p : ResetPolicy) (uses : List Use) (x : Int64) :
    p.compound n (uses ++ [.update x]) = n * p.compound n uses + x.toInt := by
  rw [compound, span_concat uses Use.noConfusion, Use.numbers_concat]
  exact List.foldl_concat ..

theorem compound_peek (n : Nat) (p : ResetPolicy) (uses : List Use) :
    p.compound n (uses ++ [.peek]) = p.compound n uses := by
  rw [compound, span_concat uses Use.noConfusion, Use.numbers_concat]
  exact congrArg (List.foldl _ _) (List.append_nil _)

theorem compound_read_never (n : Nat) (uses : List Use) :
    never.compound n (uses ++ [.read]) = never.compound n uses := by
  have hnothing : Use.numbers (uses ++ [.read]) = Use.numbers uses := by
    rw [Use.numbers_concat]
    exact List.append_nil _
  exact congrArg (List.foldl _ _) hnothing

theorem compound_read_onRead (n : Nat) (uses : List Use) (r : Int64) :
    (onRead r).compound n (uses ++ [.read]) = r.toInt := by
  rw [compound, span_read]
  rfl

theorem foldl_compound_one (l : List Int) (s : Int) :
    l.foldl (fun s x ↦ ((1 : Nat) : Int) * s + x) s = s + l.sum := by
  induction l generalizing s with
  | nil => simp
  | cons x l ih =>
    rw [List.foldl_cons, ih, List.sum_cons]
    ring

theorem compound_one (uses : List Use) (p : ResetPolicy) : p.compound 1 uses = p.sum uses :=
  foldl_compound_one _ _

end ResetPolicy

theorem fitsInt64_iff {i : Int} :
    Number.fitsInt64 i ↔ Int64.minValue.toInt ≤ i ∧ i ≤ Int64.maxValue.toInt := by
  rw [Number.fitsInt64, Bool.and_eq_true, decide_eq_true_eq, decide_eq_true_eq]

theorem toInt_saturate {i : Int} (h : Number.fitsInt64 i) : (saturate i).toInt = i := by
  obtain ⟨hmin, hmax⟩ := fitsInt64_iff.mp h
  rw [saturate, if_neg (not_lt.mpr hmin), if_neg (not_lt.mpr hmax)]
  exact Int64.toInt_ofInt_of_le hmin (Int.lt_of_le_of_lt hmax (by decide))

/-- Each of the transforms adds what was there before the update. -/
theorem combine_replicate {n : Nat} {current x : Int64}
    (h : Number.fitsInt64 (n * current.toInt + x.toInt)) :
    (combine (List.replicate n .accumulate) current x).toInt = n * current.toInt + x.toInt := by
  induction n generalizing x with
  | zero => simp [combine]
  | succ n ih =>
    -- The sum lies between the update and the result, on the side to which the reading pulls.
    have hnext : Number.fitsInt64 (current.toInt + x.toInt) := by
      obtain ⟨hmin, hmax⟩ := fitsInt64_iff.mp h
      have hx := x.minValue_le_toInt
      have hx' := x.toInt_le
      push_cast at hmin hmax
      rw [fitsInt64_iff]
      rcases le_total 0 current.toInt with hpos | hneg
      · have hfold : 0 ≤ (n : Int) * current.toInt := mul_nonneg (Int.natCast_nonneg n) hpos
        exact ⟨by linarith, by linarith⟩
      · have hfold : (n : Int) * current.toInt ≤ 0 :=
          mul_nonpos_of_nonneg_of_nonpos (Int.natCast_nonneg n) hneg
        exact ⟨by linarith, by linarith⟩
    have hsum : n * current.toInt + (saturate (current.toInt + x.toInt)).toInt =
        (n + 1 : Nat) * current.toInt + x.toInt := by
      rw [toInt_saturate hnext]
      push_cast
      ring
    rw [← hsum] at h ⊢
    exact ih h

/-! ### Chains of `accumulate` -/

/-- A value that goes through `accumulate` a number of times. -/
def chain (n : Nat) (p : ResetPolicy) : Value := .new (List.replicate n .accumulate) p

/-- Such a value in service, with what it reads. -/
structure Chained (n : Nat) (p : ResetPolicy) (reading : Int) (v : Value) : Prop where
  transforms : v.transforms = List.replicate n .accumulate
  reset : v.reset = p
  running : v.stopped = false
  peek : v.peek.toInt = reading

namespace Chained

variable {n : Nat} {p : ResetPolicy} {s : Int} {v : Value}

theorem new (n : Nat) (p : ResetPolicy) : Chained n p p.initial.toInt (chain n p) :=
  ⟨rfl, rfl, rfl, rfl⟩

theorem update (h : Chained n p s v) {x : Int64} (hfits : Number.fitsInt64 (n * s + x.toInt)) :
    Chained n p (n * s + x.toInt) (v.update x) := by
  rw [← h.peek] at hfits ⊢
  rw [Value.update_eq, h.running, h.transforms]
  exact ⟨rfl, h.reset, rfl, combine_replicate hfits⟩

theorem read (h : Chained n p s v) :
    Chained n p (p.afterRead v.peek).toInt v.read.2 := by
  refine ⟨h.transforms, h.reset, h.running, ?_⟩
  rw [← h.reset]
  rfl

end Chained

/-- As long as all that it computes fits in 64 bits, a chain computes exactly. -/
theorem chained_after {n : Nat} {p : ResetPolicy} {uses : List Use}
    (hfits : ∀ before, before <+: uses → Number.fitsInt64 (p.compound n before)) :
    Chained n p (p.compound n uses) ((chain n p).after uses) := by
  induction uses using List.reverseRecOn with
  | nil =>
    rw [ResetPolicy.compound_nil]
    exact .new n p
  | append_singleton uses u ih =>
    have hnow := hfits _ (List.prefix_refl _)
    have hbefore := ih fun before h ↦ hfits before (h.trans (List.prefix_append _ _))
    rw [Value.after_concat]
    cases u with
    | update x =>
      rw [ResetPolicy.compound_update] at hnow ⊢
      exact hbefore.update hnow
    | read =>
      have hread := hbefore.read
      cases p with
      | never =>
        rw [ResetPolicy.compound_read_never, ← hbefore.peek]
        exact hread
      | onRead r =>
        rw [ResetPolicy.compound_read_onRead]
        exact hread
    | peek =>
      rw [ResetPolicy.compound_peek]
      exact hbefore

section

variable {n : Nat} {p : ResetPolicy} {uses : List Use}

theorem chain_after
    (hfits : ∀ before, before <+: uses → Number.fitsInt64 (p.compound n before))
    {before : List Use} (h : before <+: uses) :
    ((chain n p).after before).peek.toInt = p.compound n before :=
  (chained_after fun b hb ↦ hfits b (hb.trans h)).peek

/-- With `accumulate` once, this is the running sum. -/
theorem chain_one_after
    (hfits : ∀ before, before <+: uses → Number.fitsInt64 (p.sum before))
    {before : List Use} (h : before <+: uses) :
    ((chain 1 p).after before).peek.toInt = p.sum before := by
  simp only [← ResetPolicy.compound_one] at hfits ⊢
  exact chain_after hfits h

end

/-! ### Conservation -/

namespace ResetPolicy

theorem sum_update (uses : List Use) (x : Int64) (p : ResetPolicy) :
    p.sum (uses ++ [.update x]) = p.sum uses + x.toInt := by
  rw [← compound_one, ← compound_one, compound_update, Nat.cast_one, one_mul]

theorem sum_peek (uses : List Use) (p : ResetPolicy) : p.sum (uses ++ [.peek]) = p.sum uses := by
  rw [← compound_one, ← compound_one, compound_peek]

theorem sum_read (uses : List Use) (r : Int64) :
    (onRead r).sum (uses ++ [.read]) = r.toInt := by
  rw [← compound_one, compound_read_onRead]

end ResetPolicy

/-- A value that adds up what it is sent, and starts again from `r` when it is read. -/
def accumulator (r : Int64) : Value := .new [.accumulate] (.onRead r)

/-- What such a value shows accounts for all that it was sent. -/
structure Conserves (r : Int64) (uses : List Use) : Prop where
  /-- A read returns `r` and what was sent since the read before it, or since the beginning. -/
  read : ∀ before later, uses = before ++ .read :: later →
    ∃ x, ((accumulator r).readings uses)[before.count .read]? = some x ∧
      x.toInt = (ResetPolicy.onRead r).sum before
  length_eq : ((accumulator r).readings uses).length = uses.count .read
  /-- At all times, a look at the reading shows what a read would return. -/
  peek : ∀ before, before <+: uses →
    ((accumulator r).after before).peek = ((accumulator r).after before).read.1 ∧
      ((accumulator r).after before).peek.toInt = (ResetPolicy.onRead r).sum before
  /-- All that was read and what is left are all that was sent, and `r` for each start. -/
  balance : (((accumulator r).readings uses).map Int64.toInt).sum +
      ((accumulator r).after uses).peek.toInt =
    (Use.numbers uses).sum + (uses.count .read + 1) * r.toInt

section

variable {r : Int64} {uses : List Use}

theorem accumulator_after
    (hfits : ∀ before, before <+: uses → Number.fitsInt64 ((ResetPolicy.onRead r).sum before))
    {before : List Use} (h : before <+: uses) :
    ((accumulator r).after before).peek.toInt = (ResetPolicy.onRead r).sum before :=
  chain_one_after hfits h

/-- A read moves the running sum to the readings, and puts `r` in its place. -/
theorem readings_balance
    (hfits : ∀ before, before <+: uses → Number.fitsInt64 ((ResetPolicy.onRead r).sum before)) :
    (((accumulator r).readings uses).map Int64.toInt).sum + (ResetPolicy.onRead r).sum uses =
      (Use.numbers uses).sum + (uses.count .read + 1) * r.toInt := by
  induction uses using List.reverseRecOn with
  | nil => simp [Value.readings, noted, Use.numbers, ResetPolicy.sum, ResetPolicy.span,
      Use.sinceRead, ResetPolicy.initial]
  | append_singleton uses u ih =>
    have hprefix : uses <+: uses ++ [u] := List.prefix_append _ _
    have hbefore := ih fun before h ↦ hfits before (h.trans hprefix)
    rw [Value.readings_concat, Use.numbers_concat, List.map_append, List.sum_append,
      List.sum_append, List.count_append]
    cases u with
    | update x =>
      have hcount : List.count Use.read [.update x] = 0 := rfl
      rw [ResetPolicy.sum_update, hcount, Nat.add_zero]
      simp only [Use.taken, Use.number?, Option.toList_some, List.map_nil, List.sum_nil,
        List.sum_singleton]
      linarith
    | read =>
      have hcount : List.count Use.read [.read] = 1 := rfl
      have htaken := accumulator_after hfits hprefix
      rw [ResetPolicy.sum_read, hcount]
      simp only [Use.taken, Use.number?, Option.toList_none, List.map_singleton, List.sum_nil,
        List.sum_singleton, Value.read]
      push_cast
      linarith
    | peek =>
      have hcount : List.count Use.read [.peek] = 0 := rfl
      rw [ResetPolicy.sum_peek, hcount, Nat.add_zero]
      simp only [Use.taken, Use.number?, Option.toList_none, List.map_nil, List.sum_nil]
      linarith

/-- As long as no running sum leaves the 64 bits, nothing that is sent gets lost or counts twice. -/
theorem accumulator_conserves
    (hfits : ∀ before, before <+: uses → Number.fitsInt64 ((ResetPolicy.onRead r).sum before)) :
    Conserves r uses where
  read before later huses := by
    subst huses
    exact ⟨_, Value.getElem?_readings before later _,
      accumulator_after hfits (List.prefix_append _ _)⟩
  length_eq := Value.length_readings uses _
  peek before h := ⟨rfl, accumulator_after hfits h⟩
  balance := by
    rw [accumulator_after hfits (List.prefix_refl _)]
    exact readings_balance hfits

end

/-- A value that starts from 5 and is read twice. -/
theorem accumulator_conserves_five :
    (∀ before, before <+: [.update 2, .read, .update 3, .peek, .update (-1), .read, .update 4] →
        Number.fitsInt64 ((ResetPolicy.onRead 5).sum before)) ∧
      Conserves 5 [.update 2, .read, .update 3, .peek, .update (-1), .read, .update 4] := by
  have hfits : ∀ before ∈
      List.inits [.update 2, .read, .update 3, .peek, .update (-1), .read, .update 4],
      Number.fitsInt64 ((ResetPolicy.onRead 5).sum before) := by decide
  simp only [List.mem_inits] at hfits
  exact ⟨hfits, accumulator_conserves hfits⟩

/-! ### Longer chains -/

section

variable {n : Nat} {p : ResetPolicy} {uses : List Use}

/-- What is computed is the running sum as long as every number meets a running sum of zero. -/
theorem compound_eq_sum
    (hzero : ∀ before x, before ++ [.update x] <+: uses → p.sum before = 0) :
    p.compound n uses = p.sum uses := by
  induction uses using List.reverseRecOn with
  | nil => rw [← ResetPolicy.compound_one, ResetPolicy.compound_nil, ResetPolicy.compound_nil]
  | append_singleton uses u ih =>
    have hbefore := ih fun before x h ↦ hzero before x (h.trans (List.prefix_append _ _))
    cases u with
    | update x =>
      have hnow := hzero uses x (List.prefix_refl _)
      rw [ResetPolicy.compound_update, ResetPolicy.sum_update, hbefore, hnow, mul_zero]
    | read =>
      cases p with
      | never =>
        rw [← ResetPolicy.compound_one, ResetPolicy.compound_read_never,
          ResetPolicy.compound_read_never, ResetPolicy.compound_one, hbefore]
      | onRead r => rw [ResetPolicy.compound_read_onRead, ResetPolicy.sum_read]
    | peek => rw [ResetPolicy.compound_peek, ResetPolicy.sum_peek, hbefore]

/-- An update on which both agree, as they did before it, meets a running sum of zero. -/
theorem eq_one_or_sum_eq_zero {before : List Use} {x : Int64}
    (hbefore : p.compound n before = p.sum before)
    (hafter : p.compound n (before ++ [.update x]) = p.sum (before ++ [.update x])) :
    n = 1 ∨ p.sum before = 0 := by
  rw [ResetPolicy.compound_update, ResetPolicy.sum_update, hbefore] at hafter
  have hfactor : ((n : Int) - 1) * p.sum before = 0 := by linarith
  rcases mul_eq_zero.mp hfactor with hn | hzero
  · exact .inl (by omega)
  · exact .inr hzero

/-- A chain multiplies what it reads by its length before it adds a number. It shows the running sum
exactly if `accumulate` stands in it once, or every number meets a running sum of zero. -/
theorem chain_compounds
    (hchain : ∀ before, before <+: uses → Number.fitsInt64 (p.compound n before))
    (hsum : ∀ before, before <+: uses → Number.fitsInt64 (p.sum before)) :
    (∀ before, before <+: uses →
        ((chain n p).after before).peek.toInt = p.compound n before ∧
          ((chain 1 p).after before).peek.toInt = p.sum before) ∧
      ((∀ before, before <+: uses →
          ((chain n p).after before).peek = ((chain 1 p).after before).peek) ↔
        n = 1 ∨ ∀ before x, before ++ [.update x] <+: uses → p.sum before = 0) := by
  have hagree : ∀ before, before <+: uses →
      (((chain n p).after before).peek = ((chain 1 p).after before).peek ↔
        p.compound n before = p.sum before) := fun before h ↦ by
    rw [← chain_after hchain h, ← chain_one_after hsum h, Int64.toInt_inj]
  refine ⟨fun before h ↦ ⟨chain_after hchain h, chain_one_after hsum h⟩, fun h ↦ ?_, ?_⟩
  · by_cases hn : n = 1
    · exact .inl hn
    · refine .inr fun before x hx ↦ ?_
      have hb : before <+: uses := (List.prefix_append _ _).trans hx
      exact (eq_one_or_sum_eq_zero ((hagree _ hb).mp (h _ hb))
        ((hagree _ hx).mp (h _ hx))).resolve_left hn
  · rintro (rfl | hzero) before h
    · rfl
    · exact (hagree before h).mpr (compound_eq_sum fun b x hx ↦ hzero b x (hx.trans h))

end

/-- Two numbers that are sent to a value with `accumulate` twice. -/
theorem chain_compounds_two :
    ((∀ before, before <+: [.update 1, .update 1] →
          Number.fitsInt64 (ResetPolicy.never.compound 2 before)) ∧
        ∀ before, before <+: [.update 1, .update 1] →
          Number.fitsInt64 (ResetPolicy.never.sum before)) ∧
      (∀ before, before <+: [.update 1, .update 1] →
        ((chain 2 .never).after before).peek.toInt = ResetPolicy.never.compound 2 before ∧
          ((chain 1 .never).after before).peek.toInt = ResetPolicy.never.sum before) ∧
      ¬ ∀ before, before <+: [.update 1, .update 1] →
        ((chain 2 .never).after before).peek = ((chain 1 .never).after before).peek := by
  have hchain : ∀ before ∈ List.inits [.update 1, .update 1],
      Number.fitsInt64 (ResetPolicy.never.compound 2 before) := by decide
  have hsum : ∀ before ∈ List.inits [.update 1, .update 1],
      Number.fitsInt64 (ResetPolicy.never.sum before) := by decide
  simp only [List.mem_inits] at hchain hsum
  obtain ⟨hreads, hagree⟩ := chain_compounds hchain hsum
  refine ⟨⟨hchain, hsum⟩, hreads, fun h ↦ ?_⟩
  rcases hagree.mp h with htwo | hzero
  · exact absurd htwo (by decide)
  · exact absurd (hzero [.update 1] 1 (List.prefix_refl _)) (by decide)

end TelemetrySim.Live

/-! ### A demonstration

A value with `accumulate` twice whose source always draws 1. -/

namespace TelemetrySim.Demo

open Live

def doubled : Decl.Document where
  metrics := [{
    name := .same "jobs", kind := some "gauge", description := some "Jobs"
    value := some {
      source := some {
        kind := some "random_int", min := some 1, max := some 1
        clock := some { kind := some "periodic", interval := some (.ofSeconds 1) } }
      transforms := some [⟨"accumulate"⟩, ⟨"accumulate"⟩] } }]

def doubledConfig : Config where
  instances := ⟨[], [], []⟩
  metrics := [⟨⟨"jobs", "jobs"⟩, .gauge, "Jobs", {
    source := { kind := "random_int", clock := some beat, min := 1, max := 1 }
    transforms := [⟨"accumulate"⟩, ⟨"accumulate"⟩] }, []⟩]
  exporter := .pull {}
  settings := { seed := none, internalMetrics := ⟨false, .prometheus⟩ }

/-- The value of the metric shows 3 after two updates by 1. -/
theorem doubled_misadds :
    doubled.check = .ok () ∧ doubled.compile = .ok doubledConfig ∧
      (∃ g : Generator, Generator.ofConfig (.ofSetting none 0) doubledConfig = .ok g ∧
        g.value? 0 = some (chain 2 .never)) ∧
      ((chain 2 .never).after [.update 1, .update 1]).peek = 3 ∧
        ((chain 1 .never).after [.update 1, .update 1]).peek = 2 ∧
          ResetPolicy.never.sum [.update 1, .update 1] = 2 := by
  refine ⟨by with_unfolding_all rfl, by with_unfolding_all rfl,
    ⟨_, by with_unfolding_all rfl, by with_unfolding_all rfl⟩, by decide, by decide, by decide⟩

end TelemetrySim.Demo
