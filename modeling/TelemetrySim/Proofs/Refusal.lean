import Mathlib.Algebra.BigOperators.Group.Finset.Basic
import TelemetrySim.Proofs.Domains
import TelemetrySim.Proofs.Rewriting

/-!
Entries that are not expanded. An entry is refused if it mentions an iterator that is not declared.
Every domain has values, so combinations are never counted as none, but their number may not fit in
64 bits, and then the program panics (`expandEntry_of_declared`). A list of entries fails with the
first of them that does (`refuses_first`).
-/

set_option autoImplicit false
set_option relaxedAutoImplicit false

namespace TelemetrySim

open Outcome

/-! ### Registries that declarations built -/

namespace Registry

variable {calls : List (String × List String)} {r : Registry} {n : String}

theorem exists_domain?_iff (hr : ofCalls calls = .ok r) :
    (∃ values, r.domain? n = some values) ↔ n ∈ calls.map (·.1) := by
  rw [domain?_of_ofCalls hr, ← Assoc.mem_keys_iff, Assoc.keys, List.map_reverse, List.mem_reverse]

theorem isNone_domain? (hr : ofCalls calls = .ok r) (n : String) :
    (r.domain? n).isNone = decide (n ∉ calls.map (·.1)) := by
  rw [Bool.eq_iff_iff, decide_eq_true_iff, ← exists_domain?_iff hr]
  cases r.domain? n <;> simp

/-- Every domain has values. -/
theorem lastDeclared_ne_nil (hr : ofCalls calls = .ok r) (hn : n ∈ calls.map (·.1)) :
    lastDeclared calls n ≠ [] := by
  obtain ⟨values, hvalues⟩ := (exists_domain?_iff hr).mpr hn
  rw [domain?_of_ofCalls hr] at hvalues
  have hcall : (n, values) ∈ calls := List.mem_reverse.mp (Assoc.mem_of_lookup hvalues)
  have hdeclared : ∀ (before : Registry) (call : String × List String),
      (∃ after, before.declare call.1 call.2 = .ok after) ↔
        Placeholder.Identifier call.1.toList ∧ call.2 ≠ [] ∧ call.2.Nodup := by
    intro before call
    simp [declare_eq_ok_iff]
  have hkept := (exists_foldlM_iff hdeclared).mp ⟨r, hr⟩ (n, values) hcall
  rw [lastDeclared, hvalues]
  exact hkept.2.1

theorem combinations_of_declared {names : List String}
    (h : ∀ n ∈ names, ∃ values, r.domain? n = some values) :
    r.combinations names = .ok ⟨names.map fun n ↦ (n, r.domain n)⟩ := by
  refine bind_eq_ok_iff.mpr ⟨_, Pairing.mapM_eq_ok_iff.mpr ?_, rfl⟩
  refine List.forall₂_map_right_iff.mpr (List.forall₂_same.mpr fun n hn ↦ ?_)
  obtain ⟨values, hvalues⟩ := h n hn
  simp [domain, hvalues]

/-- Looking up names stops at the first one that is not declared. -/
theorem combinations_of_unknown {names : List String}
    (h : names.find? (fun n ↦ (r.domain? n).isNone) = some n) :
    r.combinations names = .error (.unknown n) := by
  obtain ⟨hn, front, back, rfl, hfront⟩ := List.find?_eq_some_iff_append.mp h
  have hdeclared : ∀ m ∈ front, ∃ values, r.domain? m = some values := by
    intro m hm
    exact Option.isSome_iff_exists.mp (by simpa using hfront m hm)
  obtain ⟨iterators, hiterators, -⟩ := bind_eq_ok_iff.mp (combinations_of_declared hdeclared)
  rw [combinations, List.mapM_append, hiterators, List.mapM_cons, Option.isNone_iff_eq_none.mp hn]
  rfl

end Registry

/-! ### Single entries -/

namespace Expansion

variable {α : Type} [Scanned α] {r : Registry} {a : α} {calls : List (String × List String)}

/-- The names that an entry mentions in the texts that are scanned, in order and with
repetitions. -/
def mentioned (strings : α → List String) (a : α) : List String :=
  (strings a).flatMap Placeholder.names

/-- What an entry fails with: the first name that it mentions and that is not declared, or a panic if
all are declared and the number of combinations does not fit in 64 bits. -/
inductive Fails (calls : List (String × List String)) (mentions : List String) :
    ExpansionFailure → Prop
  | unknown {n : String} (h : mentions.find? (· ∉ calls.map (·.1)) = some n) :
    Fails calls mentions (.refused (.unknown n))
  | overflow (hdeclared : ∀ n ∈ mentions, n ∈ calls.map (·.1))
    (hsize : UInt64.size ≤ ∏ n ∈ mentions.toFinset, (Registry.lastDeclared calls n).length) :
    Fails calls mentions (.panicked .overflow)

section Entries

variable {strings : α → List String} (htexts : ∀ a : α, Scanned.texts a = strings a)

include htexts

theorem mem_placeholders_iff {n : String} :
    n ∈ Scanned.placeholders a ↔ n ∈ mentioned strings a := by
  rw [Scanned.placeholders, List.mem_eraseDups, htexts, mentioned]

/-- The number of combinations is the product of the sizes of the domains. -/
theorem prod_placeholders (hr : Registry.ofCalls calls = .ok r) :
    ((Scanned.placeholders a).map fun n ↦ (r.domain n).length).prod =
      ∏ n ∈ (mentioned strings a).toFinset, (Registry.lastDeclared calls n).length := by
  have hnodup : (Scanned.placeholders a).Nodup := (firstAppearance_eraseDups _).nodup
  rw [← List.prod_toFinset _ hnodup, Registry.domain_of_ofCalls hr]
  refine Finset.prod_congr ?_ fun _ _ ↦ rfl
  ext n
  rw [List.mem_toFinset, List.mem_toFinset, mem_placeholders_iff htexts]

/-- The first placeholder that is not declared decides. -/
theorem expandEntry_of_unknown (hr : Registry.ofCalls calls = .ok r) {n : String}
    (h : (mentioned strings a).find? (· ∉ calls.map (·.1)) = some n) :
    expandEntry r a = .error (.refused (.unknown n)) := by
  have hfirst : (Scanned.placeholders a).find? (fun n ↦ (r.domain? n).isNone) = some n := by
    rw [Scanned.placeholders, find?_eraseDups, htexts, ← h]
    exact congrArg (List.find? · _) (funext (Registry.isNone_domain? hr))
  have hsome : Scanned.placeholders a ≠ [] := List.ne_nil_of_mem (List.mem_of_find?_eq_some hfirst)
  simp only [expandEntry, List.isEmpty_iff, hsome, if_false]
  rw [Registry.combinations_of_unknown hfirst]
  rfl

/-- With all of its placeholders declared, an entry is expanded if its combinations can be
counted. -/
theorem expandEntry_of_declared (hr : Registry.ofCalls calls = .ok r)
    (h : ∀ n ∈ mentioned strings a, n ∈ calls.map (·.1)) :
    Decides (· = .panicked .overflow) (∏ n ∈ (mentioned strings a).toFinset,
      (Registry.lastDeclared calls n).length < UInt64.size) (fun _ ↦ True) (expandEntry r a) := by
  rw [← prod_placeholders htexts hr]
  by_cases hnames : Scanned.placeholders a = []
  · rw [expandEntry_of_nil hnames, hnames, List.map_nil, List.prod_nil]
    exact .ok (by decide) trivial
  · have hdeclared : ∀ n ∈ Scanned.placeholders a, n ∈ calls.map (·.1) :=
      fun n hn ↦ h n ((mem_placeholders_iff htexts).mp hn)
    have hfound := Registry.combinations_of_declared fun n hn ↦
      (Registry.exists_domain?_iff hr).mpr (hdeclared n hn)
    generalize hc : Combinations.mk _ = c at hfound
    have hsizes : c.sizes = (Scanned.placeholders a).map fun n ↦ (r.domain n).length := by
      rw [← hc, Combinations.sizes, List.map_map]
      rfl
    have hpos : 0 ∉ c.sizes := by
      rw [hsizes, Registry.domain_of_ofCalls hr]
      simpa using fun n hn ↦ Registry.lastDeclared_ne_nil hr (hdeclared n hn)
    rw [← hsizes]
    refine Decides.congr ?_ (Combinations.fits_iff_of_zero_notMem hpos)
    by_cases hfits : c.Fits
    · obtain ⟨n, hn⟩ := c.total_decides.ok_iff.mpr hfits
      obtain ⟨shown, hshown⟩ := c.all_decides.ok_iff.mpr hfits
      have hsome : n ≠ 0 :=
        (Combinations.eq_zero_iff_of_prod (c.total_decides.gives hn)).not.mpr hpos
      rw [(expandEntry_eq_ok_iff hnames).mpr ⟨c, n, shown, hfound, hn, hsome, hshown, rfl⟩]
      exact .ok hfits trivial
    · have htotal := c.total_decides.eq_error_iff.mpr hfits
      have hpanic : expandEntry r a = .error (.panicked .overflow) := by
        simp only [expandEntry, List.isEmpty_iff, hnames, if_false, hfound]
        change (c.total.mapError ExpansionFailure.panicked >>= _) = _
        rw [htotal]
        rfl
      rw [hpanic]
      exact .error hfits rfl

theorem expandEntry_eq_error_iff (hr : Registry.ofCalls calls = .ok r) {e : ExpansionFailure} :
    expandEntry r a = .error e ↔ Fails calls (mentioned strings a) e := by
  by_cases hall : ∀ n ∈ mentioned strings a, n ∈ calls.map (·.1)
  · have hdecides := expandEntry_of_declared htexts hr hall
    constructor
    · intro h
      obtain rfl := hdecides.blames e h
      exact .overflow hall (Nat.not_lt.mp (hdecides.eq_error_iff.mp h))
    · intro h
      cases h with
      | unknown h =>
        have hn := hall _ (List.mem_of_find?_eq_some h)
        simpa [hn] using List.find?_some h
      | overflow _ hsize => exact hdecides.eq_error_iff.mpr (Nat.not_lt.mpr hsize)
  · obtain ⟨n, hn⟩ : ∃ n, (mentioned strings a).find? (· ∉ calls.map (·.1)) = some n := by
      rw [← Option.isSome_iff_exists, List.find?_isSome]
      simpa using hall
    rw [expandEntry_of_unknown htexts hr hn]
    constructor
    · intro h
      obtain rfl := Except.error.inj h
      exact .unknown hn
    · intro h
      cases h with
      | unknown h =>
        obtain rfl := Option.some.inj (hn.symm.trans h)
        rfl
      | overflow hdeclared _ => exact absurd hdeclared hall

end Entries

/-! ### Lists of entries -/

section Lists

variable {s : Decl.Section} {E : α → ExpansionFailure → Prop}
  (hentry : ∀ a e, expandEntry r a = .error e ↔ E a e)

include hentry

theorem exists_expandEntry_iff : (∃ copies, expandEntry r a = .ok copies) ↔ ∀ c, ¬ E a c := by
  simp only [← hentry]
  cases expandEntry r a with
  | ok copies => simp
  | error c => simp

theorem expandFrom_cons_eq_error_iff {rest : List α} {i : Nat} {e : ExpansionFailure} :
    expandFrom r s i (a :: rest) = .error e ↔
      (∃ c, E a c ∧ c.inEntry s i = e) ∨
        (∀ c, ¬ E a c) ∧ expandFrom r s (i + 1) rest = .error e := by
  have hpure : ∀ copies others : List α,
      ¬ (pure (copies ++ others) : Except ExpansionFailure (List α)) = .error e :=
    fun _ _ h ↦ by simp [pure, Except.pure] at h
  simp only [expandFrom, bind_eq_error_iff, mapError_eq_error_iff, mapError_eq_ok_iff, hpure,
    and_false, exists_false, or_false, exists_and_right, exists_expandEntry_iff hentry, hentry]

theorem expandFrom_eq_error_iff {entries : List α} {i : Nat} {e : ExpansionFailure} :
    expandFrom r s i entries = .error e ↔
      ∃ front a back cause, entries = front ++ a :: back ∧ (∀ b ∈ front, ∀ c, ¬ E b c) ∧
        E a cause ∧ cause.inEntry s (i + front.length) = e := by
  induction entries generalizing i with
  | nil => simp [expandFrom]
  | cons a rest ih =>
    rw [expandFrom_cons_eq_error_iff hentry, ih]
    constructor
    · rintro (⟨cause, ha, rfl⟩ | ⟨ha, front, b, back, cause, rfl, hfront, hb, rfl⟩)
      · exact ⟨[], a, rest, cause, rfl, by simp, ha, rfl⟩
      · refine ⟨a :: front, b, back, cause, rfl, List.forall_mem_cons.mpr ⟨ha, hfront⟩, hb, ?_⟩
        rw [List.length_cons, Nat.add_right_comm, Nat.add_assoc]
    · rintro ⟨front, b, back, cause, hsplit, hfront, hb, rfl⟩
      cases front with
      | nil =>
        obtain ⟨rfl, -⟩ := List.cons.inj hsplit
        exact .inl ⟨cause, hb, rfl⟩
      | cons a' front =>
        obtain ⟨rfl, rfl⟩ := List.cons.inj hsplit
        obtain ⟨ha, hfront⟩ := List.forall_mem_cons.mp hfront
        refine .inr ⟨ha, front, b, back, cause, rfl, hfront, hb, ?_⟩
        rw [List.length_cons, Nat.add_right_comm, Nat.add_assoc]

/-- A list fails with its first entry that does. -/
theorem expandEntries_eq_error_iff {entries : List α} {e : ExpansionFailure} :
    expandEntries r s entries = .error e ↔
      ∃ front a back cause, entries = front ++ a :: back ∧ (∀ b ∈ front, ∀ c, ¬ E b c) ∧
        E a cause ∧ cause.inEntry s front.length = e := by
  unfold expandEntries
  rw [expandFrom_eq_error_iff hentry]
  simp only [Nat.zero_add]

end Lists

/-- The combinations of an entry whose names are all declared can be counted with 64 bits. -/
def Counted (calls : List (String × List String)) (mentions : List String) : Prop :=
  (∀ n ∈ mentions, n ∈ calls.map (·.1)) →
    ∏ n ∈ mentions.toFinset, (Registry.lastDeclared calls n).length < UInt64.size

/-- When a list of entries is not expanded, and what with. -/
structure RefusesFirst (calls : List (String × List String)) (r : Registry) (s : Decl.Section)
    (strings : α → List String) (entries : List α) : Prop where
  error_iff : ∀ e, expandEntries r s entries = .error e ↔
    ∃ front a back cause, entries = front ++ a :: back ∧
      (∀ b ∈ front, ∀ c, ¬ Fails calls (mentioned strings b) c) ∧
        Fails calls (mentioned strings a) cause ∧ cause.inEntry s front.length = e
  /-- No entry is refused for having no combinations. -/
  never_none : ∀ e, expandEntries r s entries = .error (.refused e) → e.root ≠ .noCombinations
  /-- Where all combinations can be counted, only names that are not declared are refused. -/
  undeclared_iff : (∀ a ∈ entries, Counted calls (mentioned strings a)) →
    ((∃ e, expandEntries r s entries = .error e) ↔
      ∃ a ∈ entries, ∃ n ∈ mentioned strings a, n ∉ calls.map (·.1))
  unknown : (∀ a ∈ entries, Counted calls (mentioned strings a)) →
    ∀ e, expandEntries r s entries = .error e →
      ∃ front a back n, entries = front ++ a :: back ∧
        (∀ b ∈ front, ∀ m ∈ mentioned strings b, m ∈ calls.map (·.1)) ∧
          (mentioned strings a).find? (· ∉ calls.map (·.1)) = some n ∧
            .refused (.inEntry s front.length (.unknown n)) = e

section Counts

variable {mentions : List String}

theorem Fails.exists_iff (h : Counted calls mentions) :
    (∃ e, Fails calls mentions e) ↔ ∃ n ∈ mentions, n ∉ calls.map (·.1) := by
  constructor
  · rintro ⟨e, he⟩
    cases he with
    | @unknown n hn => exact ⟨n, List.mem_of_find?_eq_some hn, by simpa using List.find?_some hn⟩
    | overflow hdeclared hsize => exact absurd (h hdeclared) (Nat.not_lt.mpr hsize)
  · rintro ⟨n, hn, hundeclared⟩
    obtain ⟨m, hm⟩ : ∃ m, mentions.find? (· ∉ calls.map (·.1)) = some m := by
      rw [← Option.isSome_iff_exists, List.find?_isSome]
      exact ⟨n, hn, by simpa using hundeclared⟩
    exact ⟨_, .unknown hm⟩

/-- The names in front of the first entry that fails are declared. -/
theorem Fails.declared (h : Counted calls mentions) (hkept : ∀ c, ¬ Fails calls mentions c) :
    ∀ n ∈ mentions, n ∈ calls.map (·.1) := by
  intro n hn
  by_contra hundeclared
  obtain ⟨c, hc⟩ := (Fails.exists_iff h).mpr ⟨n, hn, hundeclared⟩
  exact hkept c hc

end Counts

theorem refusesFirst {strings : α → List String} (htexts : ∀ a : α, Scanned.texts a = strings a)
    (hr : Registry.ofCalls calls = .ok r) (s : Decl.Section) (entries : List α) :
    RefusesFirst calls r s strings entries where
  error_iff _ := expandEntries_eq_error_iff fun _ _ ↦ expandEntry_eq_error_iff htexts hr
  never_none := by
    intro e he
    obtain ⟨front, a, back, cause, -, -, ha, hcause⟩ :=
      (expandEntries_eq_error_iff fun _ _ ↦ expandEntry_eq_error_iff htexts hr).mp he
    cases ha with
    | unknown hn =>
      obtain rfl := ExpansionFailure.refused.inj hcause
      simp [ExpansionError.root]
    | overflow hall hsize => simp [ExpansionFailure.inEntry] at hcause
  undeclared_iff := by
    intro hcounted
    constructor
    · rintro ⟨e, he⟩
      obtain ⟨front, a, back, cause, rfl, -, ha, -⟩ :=
        (expandEntries_eq_error_iff fun _ _ ↦ expandEntry_eq_error_iff htexts hr).mp he
      have hmem : a ∈ front ++ a :: back := by simp
      exact ⟨a, hmem, (Fails.exists_iff (hcounted a hmem)).mp ⟨cause, ha⟩⟩
    · rintro ⟨a, ha, hundeclared⟩
      obtain ⟨cause, hcause⟩ := (Fails.exists_iff (hcounted a ha)).mpr hundeclared
      cases hexpand : expandEntries r s entries with
      | error e => exact ⟨e, rfl⟩
      | ok out =>
        obtain ⟨blocks, hblocks, -⟩ := expandEntries_eq_ok_iff.mp hexpand
        obtain ⟨copies, -, hcopies⟩ := Pairing.exists_right hblocks ha
        simp [(expandEntry_eq_error_iff htexts hr).mpr hcause] at hcopies
  unknown := by
    intro hcounted e he
    obtain ⟨front, a, back, cause, rfl, hfront, ha, rfl⟩ :=
      (expandEntries_eq_error_iff fun _ _ ↦ expandEntry_eq_error_iff htexts hr).mp he
    cases ha with
    | @unknown n hn =>
      refine ⟨front, a, back, n, rfl, fun b hb ↦ ?_, hn, rfl⟩
      exact Fails.declared (hcounted b (by simp [hb])) (hfront b hb)
    | overflow hall hsize => exact absurd (hcounted a (by simp) hall) (Nat.not_lt.mpr hsize)

end Expansion

/-! ### All kinds of declarations -/

open Expansion Decl in
/-- With any registry that declarations built, the entries of each kind fail with the first one that
mentions a name that is not declared, or whose combinations cannot be counted. -/
theorem Registry.refuses_first {calls : List (String × List String)} {r : Registry}
    (hr : ofCalls calls = .ok r) (s : Decl.Section) :
    (∀ entries : List Clock, RefusesFirst calls r s Clock.strings entries) ∧
      (∀ entries : List Source, RefusesFirst calls r s Source.strings entries) ∧
      (∀ entries : List Value, RefusesFirst calls r s Value.strings entries) ∧
      (∀ entries : List MetricTemplate, RefusesFirst calls r s MetricTemplate.strings entries) ∧
      ∀ entries : List Metric, RefusesFirst calls r s Metric.strings entries :=
  ⟨refusesFirst Clock.texts_eq hr s, refusesFirst Source.texts_eq hr s,
    refusesFirst Value.texts_eq hr s, refusesFirst MetricTemplate.texts_eq hr s,
    refusesFirst Metric.texts_eq hr s⟩

/-! ### A demonstration

The second metric mentions an iterator that is not declared. The wide metric mentions sixteen
iterators of sixteen values each, so that it has one combination more than can be counted. -/

namespace Demo

open Expansion

/-- The first metric that is refused is the second one, for the iterator of its name. -/
theorem sensors_refused :
    Registry.ofCalls calls = .ok registry ∧
      (∀ entries, RefusesFirst calls registry .metrics Decl.Metric.strings entries) ∧
      expandEntries registry .metrics [sensor "{zone}" "{unit}", sensor "{room}" "{hall}"] =
        .error (.refused (.inEntry .metrics 1 (.unknown "room"))) := by
  have hcalls : Registry.ofCalls calls = .ok registry := by with_unfolding_all rfl
  obtain ⟨-, -, -, -, hrefuses⟩ := Registry.refuses_first hcalls .metrics
  exact ⟨hcalls, hrefuses, by with_unfolding_all rfl⟩

def letters : List String :=
  ["a", "b", "c", "d", "e", "f", "g", "h", "i", "j", "k", "l", "m", "n", "o", "p"]

/-- Sixteen iterators of sixteen values. -/
def grid : List (String × List String) := letters.map fun n ↦ (n, letters)

def gridRegistry : Registry := ⟨grid⟩

def wide : Decl.Metric where
  name := .same
    "{a}{b}{c}{d}{e}{f}{g}{h}{i}{j}{k}{l}{m}{n}{o}{p}"

/-- The wide metric mentions declared iterators only, and yet the program panics for it, so that the
metric behind it is never looked at. -/
theorem wide_overflows :
    Registry.ofCalls grid = .ok gridRegistry ∧
      (∀ n ∈ mentioned Decl.Metric.strings wide, n ∈ grid.map (·.1)) ∧
      expandEntries gridRegistry .metrics [wide, sensor "{zone}" "1"] =
        .error (.panicked .overflow) :=
  ⟨by with_unfolding_all rfl, by with_unfolding_all decide, by with_unfolding_all rfl⟩

end Demo

end TelemetrySim
