import Mathlib.Algebra.BigOperators.Group.List.Basic
import Mathlib.Data.List.Induction
import TelemetrySim.Iterator.Registry
import TelemetrySim.Proofs.Pairing

/-!
The odometer and the product it counts. `after` lists the positions that lie behind a cursor; a step
of the odometer moves to the first of them (`after_eq_next`), so a walk from the origin meets every
cell in order (`all_eq_cells`). For iterators with different names the combinations are then the
product of their domains by recursion on the names (`all_eq_choices`).
-/

set_option autoImplicit false
set_option relaxedAutoImplicit false

namespace TelemetrySim

namespace Odometer

variable {sizes : List Nat}

/-- The lists of positions behind a cursor: first those that move a later position, then those that
move this one. -/
def after : List Nat → List Nat → List (List Nat)
  | n :: sizes, i :: cursor =>
    (after sizes cursor).map (i :: ·) ++
      (List.range' (i + 1) (n - (i + 1))).flatMap fun j ↦ (cells sizes).map (j :: ·)
  | _, _ => []

theorem volume_eq_prod (sizes : List Nat) : volume sizes = sizes.prod := by
  induction sizes with
  | nil => rfl
  | cons n sizes ih => rw [volume, ih, List.prod_cons]

theorem volume_eq_zero_iff : volume sizes = 0 ↔ 0 ∈ sizes := by
  induction sizes with
  | nil => simp [volume]
  | cons n sizes ih => rw [volume, Nat.mul_eq_zero, ih, List.mem_cons, eq_comm]

theorem length_cells (sizes : List Nat) : (cells sizes).length = volume sizes := by
  induction sizes with
  | nil => rfl
  | cons n sizes ih => simp [cells, volume, ih]

theorem cells_eq_nil (h : 0 ∈ sizes) : cells sizes = [] := by
  induction sizes with
  | nil => simp at h
  | cons n sizes ih =>
    rcases List.mem_cons.mp h with rfl | h
    · rfl
    · simp [cells, ih h]

theorem cells_eq_origin (h : 0 ∉ sizes) :
    cells sizes = origin sizes :: after sizes (origin sizes) := by
  induction sizes with
  | nil => rfl
  | cons n sizes ih =>
    obtain ⟨hn, hsizes⟩ : 0 ≠ n ∧ 0 ∉ sizes := by simpa using h
    obtain ⟨m, rfl⟩ : ∃ m, n = m + 1 := ⟨n - 1, by omega⟩
    have hrange : List.range (m + 1) = 0 :: List.range' 1 m := by
      rw [List.range_eq_range', List.range'_succ]
    have hfirst : (cells sizes).map (0 :: ·) =
        (0 :: origin sizes) :: (after sizes (origin sizes)).map (0 :: ·) := by
      rw [ih hsizes, List.map_cons]
    rw [cells, hrange, List.flatMap_cons, hfirst, List.cons_append]
    rfl

/-- What lies behind a cursor starts with the next list of positions. -/
theorem after_eq_next (h : 0 ∉ sizes) (cursor : List Nat) :
    after sizes cursor =
      match next? sizes cursor with
      | some cursor => cursor :: after sizes cursor
      | none => [] := by
  induction sizes generalizing cursor with
  | nil => simp [after, next?]
  | cons n sizes ih =>
    have hsizes : 0 ∉ sizes := fun hmem ↦ h (List.mem_cons_of_mem n hmem)
    cases cursor with
    | nil => simp [after, next?]
    | cons i cursor =>
      have hbehind := ih hsizes cursor
      cases hnext : next? sizes cursor with
      | some moved =>
        have hstep : next? (n :: sizes) (i :: cursor) = some (i :: moved) := by
          simp only [next?, hnext]
        rw [hnext] at hbehind
        simp only [hstep, after, hbehind, List.map_cons, List.cons_append]
      | none =>
        rw [hnext] at hbehind
        by_cases hroom : i + 1 < n
        · have hstep : next? (n :: sizes) (i :: cursor) = some ((i + 1) :: origin sizes) := by
            simp only [next?, hnext, hroom, if_true]
          have hrange : List.range' (i + 1) (n - (i + 1)) =
              (i + 1) :: List.range' (i + 1 + 1) (n - (i + 1 + 1)) := by
            rw [← List.range'_succ]
            congr 1
            omega
          have hcells := cells_eq_origin hsizes
          simp only [hstep, after, hbehind, hrange, List.flatMap_cons, List.map_nil,
            List.nil_append]
          rw [hcells, List.map_cons, List.cons_append]
        · have hstep : next? (n :: sizes) (i :: cursor) = none := by
            simp only [next?, hnext, hroom, if_false]
          have hroom : n - (i + 1) = 0 := by omega
          simp [hstep, after, hbehind, hroom]

theorem walk_eq_take (h : 0 ∉ sizes) (fuel : Nat) (cursor : List Nat) :
    walk sizes fuel cursor = (cursor :: after sizes cursor).take fuel := by
  induction fuel generalizing cursor with
  | zero => rfl
  | succ fuel ih =>
    rw [walk, List.take_succ_cons, after_eq_next h cursor]
    cases next? sizes cursor with
    | none => simp
    | some moved => simp only [ih]

/-- However far it is let run, the odometer shows the lists of positions in the order of the
product, each of them once. -/
theorem take_eq_cells_take (limit : Nat) (sizes : List Nat) :
    take limit sizes = (cells sizes).take limit := by
  rw [take]
  by_cases h : 0 ∈ sizes
  · simp [h, cells_eq_nil h]
  · have hcontains : sizes.contains 0 = false := by simpa using h
    rw [hcontains, if_neg Bool.false_ne_true, walk_eq_take h, ← cells_eq_origin h]

end Odometer

/-! ### Counting -/

namespace Combinations

open Outcome

variable {c : Combinations} {n : UInt64}

/-- Multiplied from the first on, the sizes never leave the 64 bits. -/
def Fits (c : Combinations) : Prop := ∀ front, front <+: c.sizes → front.prod < UInt64.size

theorem times_decides (product : UInt64) (n : Nat) :
    Decides (· = .overflow) (product.toNat * n < UInt64.size)
      (fun next ↦ next.toNat = product.toNat * n) (times product n) := by
  unfold times
  by_cases h : product.toNat * n < UInt64.size
  · rw [if_pos h]
    exact .ok h (UInt64.toNat_ofNat_of_lt' h)
  · rw [if_neg h]
    exact .error h rfl

theorem forall_prefix_cons_iff {P : List Nat → Prop} {n : Nat} {sizes : List Nat} :
    (∀ front, front <+: n :: sizes → P front) ↔
      P [] ∧ ∀ front, front <+: sizes → P (n :: front) := by
  constructor
  · intro h
    exact ⟨h [] List.nil_prefix, fun front hfront ↦ h _ ((List.prefix_cons_inj n).mpr hfront)⟩
  · rintro ⟨hnil, hcons⟩ front hfront
    rcases List.prefix_cons_iff.mp hfront with rfl | ⟨rest, rfl, hrest⟩
    · exact hnil
    · exact hcons rest hrest

/-- The product of some words and sizes is formed if it never leaves the 64 bits. -/
theorem foldlM_times_decides (sizes : List Nat) (product : UInt64) :
    Decides (· = .overflow)
      (∀ front, front <+: sizes → product.toNat * front.prod < UInt64.size)
      (fun n ↦ n.toNat = product.toNat * sizes.prod) (sizes.foldlM times product) := by
  induction sizes generalizing product with
  | nil =>
    refine .ok (fun front hfront ↦ ?_) (by simp)
    obtain rfl := List.prefix_nil.mp hfront
    simpa using product.toNat_lt_size
  | cons m sizes ih =>
    rw [List.foldlM_cons]
    have hrest : ∀ next : UInt64, next.toNat = product.toNat * m →
        Decides (· = .overflow)
          (∀ front, front <+: sizes → product.toNat * (m :: front).prod < UInt64.size)
          (fun n ↦ n.toNat = product.toNat * (m :: sizes).prod) (sizes.foldlM times next) := by
      intro next hnext
      simp only [List.prod_cons, ← Nat.mul_assoc, ← hnext]
      exact ih next
    refine ((times_decides product m).bind fun next _ hnext ↦ hrest next hnext).congr ?_
    rw [forall_prefix_cons_iff]
    refine and_congr_left fun hfits ↦ ?_
    have hfirst := hfits [] List.nil_prefix
    have hword := product.toNat_lt_size
    simp only [List.prod_cons, List.prod_nil, Nat.mul_one] at hfirst ⊢
    exact iff_of_true hfirst hword

/-- Combinations can be counted if their sizes fit, and then there are as many as their product
says. -/
theorem total_decides (c : Combinations) :
    Decides (· = .overflow) c.Fits (fun n ↦ n.toNat = c.sizes.prod) c.total := by
  have hdecides := foldlM_times_decides c.sizes 1
  simp only [UInt64.toNat_one, Nat.one_mul] at hdecides
  exact hdecides

/-- They are counted as none if one of the domains is empty. -/
theorem eq_zero_iff_of_prod (h : n.toNat = c.sizes.prod) : n = 0 ↔ 0 ∈ c.sizes := by
  rw [← Odometer.volume_eq_zero_iff, Odometer.volume_eq_prod, ← h, ← UInt64.toNat_inj]
  rfl

/-- Where none of the domains is empty, only the whole product has to fit. -/
theorem fits_iff_of_zero_notMem (h : 0 ∉ c.sizes) : c.Fits ↔ c.sizes.prod < UInt64.size := by
  refine ⟨fun hfits ↦ hfits c.sizes (List.prefix_refl _), fun hprod front ⟨back, hsplit⟩ ↦ ?_⟩
  have hzero : 0 ∉ back := fun hmem ↦ h (hsplit ▸ List.mem_append_right front hmem)
  have hback : 0 < back.prod := by
    rw [← Odometer.volume_eq_zero_iff, Odometer.volume_eq_prod] at hzero
    exact Nat.pos_of_ne_zero hzero
  calc front.prod ≤ front.prod * back.prod := Nat.le_mul_of_pos_right _ hback
    _ = c.sizes.prod := by rw [← List.prod_append, hsplit]
    _ < UInt64.size := hprod

/-- Once they are counted, the combinations are those of all cells in order. -/
theorem take_decides (c : Combinations) (limit : Nat) :
    Decides (· = .overflow) c.Fits
      (· = ((Odometer.cells c.sizes).take limit).map c.assignment) (c.take limit) := by
  refine c.total_decides.bind_ok fun n _ hprod ↦ ⟨_, rfl, ?_⟩
  rw [Odometer.take_eq_cells_take]
  by_cases hn : n = 0
  · rw [if_pos hn, Odometer.cells_eq_nil ((eq_zero_iff_of_prod hprod).mp hn), List.take_nil,
      List.map_nil]
  · rw [if_neg hn]

theorem all_decides (c : Combinations) :
    Decides (· = .overflow) c.Fits (· = (Odometer.cells c.sizes).map c.assignment) c.all := by
  have hall := c.take_decides (Odometer.volume c.sizes)
  rw [← Odometer.length_cells, List.take_length] at hall
  rw [all, ← Odometer.length_cells]
  exact hall

end Combinations

/-! ### The product of domains -/

/-- All ways to choose a value for each name: the first name is the slowest, and each domain keeps
its order. -/
def choices (domain : String → List String) : List String → List Assignment
  | [] => [[]]
  | n :: names => (domain n).flatMap fun v ↦ (choices domain names).map ((n, v) :: ·)

section Choices

variable {domain : String → List String} {names : List String} {a : Assignment} {n : String}

theorem length_choices (domain : String → List String) (names : List String) :
    (choices domain names).length = (names.map fun n ↦ (domain n).length).prod := by
  induction names with
  | nil => rfl
  | cons n names ih => simp [choices, ih]

theorem names_of_mem_choices (h : a ∈ choices domain names) : a.map (·.1) = names := by
  induction names generalizing a with
  | nil => simp_all [choices]
  | cons n names ih =>
    obtain ⟨v, -, h⟩ := List.mem_flatMap.mp h
    obtain ⟨rest, hrest, rfl⟩ := List.mem_map.mp h
    rw [List.map_cons, ih hrest]

theorem exists_lookup_of_mem_choices (h : a ∈ choices domain names) (hn : n ∈ names) :
    ∃ v ∈ domain n, a.lookup n = some v := by
  induction names generalizing a with
  | nil => simp at hn
  | cons n' names ih =>
    obtain ⟨v, hv, h⟩ := List.mem_flatMap.mp h
    obtain ⟨rest, hrest, rfl⟩ := List.mem_map.mp h
    by_cases heq : n = n'
    · subst heq
      exact ⟨v, hv, by simp⟩
    · obtain ⟨w, hw, hlookup⟩ := ih hrest ((List.mem_cons.mp hn).resolve_left heq)
      have hne : (n == n') = false := by simpa using heq
      exact ⟨w, hw, by simp [List.lookup_cons, hne, hlookup]⟩

/-- A value picked for each name is one of the choices. -/
theorem map_mem_choices {value : String → String} (h : ∀ n ∈ names, value n ∈ domain n) :
    (names.map fun n ↦ (n, value n)) ∈ choices domain names := by
  induction names with
  | nil => simp [choices]
  | cons n names ih =>
    obtain ⟨hn, hnames⟩ := List.forall_mem_cons.mp h
    exact List.mem_flatMap.mpr ⟨value n, hn, List.mem_map.mpr ⟨_, ih hnames, rfl⟩⟩

theorem lookup_map_pair {value : String → String} (hn : n ∈ names) :
    (names.map fun n ↦ (n, value n)).lookup n = some (value n) := by
  induction names with
  | nil => simp at hn
  | cons n' names ih =>
    by_cases heq : n = n'
    · simp [heq]
    · have hne : (n == n') = false := by simpa using heq
      rw [List.map_cons, List.lookup_cons, hne]
      exact ih ((List.mem_cons.mp hn).resolve_left heq)

end Choices

namespace Combinations

/-- The values at all positions are the domain. -/
theorem map_getElem?_range (values : List String) :
    (List.range values.length).map (fun i ↦ values[i]?.getD "") = values := by
  refine List.ext_getElem (by simp) fun i h h' ↦ ?_
  simp [h']

theorem map_pick_cells (domain : String → List String) (names : List String) :
    (Odometer.cells (names.map fun n ↦ (domain n).length)).map
        (pick (names.map fun n ↦ (n, domain n))) = choices domain names := by
  induction names with
  | nil => rfl
  | cons n names ih =>
    -- One position of the first size gives one value in front of all choices of the rest.
    have hblock : ∀ i, ((Odometer.cells (names.map fun n ↦ (domain n).length)).map (i :: ·)).map
        (pick ((n, domain n) :: names.map fun n ↦ (n, domain n))) =
          (choices domain names).map ((n, (domain n)[i]?.getD "") :: ·) := by
      intro i
      rw [← ih, List.map_map, List.map_map]
      rfl
    have hvalues := map_getElem?_range (domain n)
    simp only [List.map_cons, Odometer.cells, List.map_flatMap, hblock, choices]
    conv_rhs => rw [← hvalues, List.flatMap_map]

/-- Inserting pairs under new names puts them at the end. -/
theorem foldl_insert_of_disjoint {pairs a : Assignment} (hnames : (pairs.map (·.1)).Nodup)
    (hnew : ∀ n ∈ pairs.map (·.1), n ∉ Assoc.keys a) :
    pairs.foldl (fun a (n, v) ↦ Assoc.insert n v a) a = a ++ pairs := by
  induction pairs generalizing a with
  | nil => simp
  | cons p pairs ih =>
    obtain ⟨n, v⟩ := p
    obtain ⟨hfirst, hrest⟩ := List.nodup_cons.mp hnames
    have hinsert : Assoc.insert n v a = a ++ [(n, v)] :=
      Assoc.insert_of_notMem (hnew n (by simp)) v
    have hnew' : ∀ n' ∈ pairs.map (·.1), n' ∉ Assoc.keys (a ++ [(n, v)]) := by
      intro n' hn' hmem
      rw [Assoc.keys, List.map_append, List.mem_append] at hmem
      rcases hmem with hmem | hmem
      · exact hnew n' (List.mem_cons_of_mem n hn') hmem
      · exact hfirst (List.mem_singleton.mp hmem ▸ hn')
    simp only [List.foldl_cons]
    rw [hinsert, ih hrest hnew', List.append_assoc, List.singleton_append]

/-- The combinations of iterators with different names are the choices from their domains. -/
theorem all_eq_choices {c : Combinations} {domain : String → List String} {names : List String}
    (hiterators : c.iterators = names.map fun n ↦ (n, domain n)) (hnames : names.Nodup)
    {shown : List Assignment} (h : c.all = .ok shown) : shown = choices domain names := by
  have hsizes : c.sizes = names.map fun n ↦ (domain n).length := by
    rw [sizes, hiterators, List.map_map]
    rfl
  have hpicks := map_pick_cells domain names
  have hassignment : ∀ cursor ∈ Odometer.cells c.sizes,
      c.assignment cursor = pick c.iterators cursor := by
    intro cursor hcursor
    have hpick : pick c.iterators cursor ∈ choices domain names := by
      rw [← hpicks, hiterators, ← hsizes]
      exact List.mem_map_of_mem hcursor
    have hpicked := names_of_mem_choices hpick
    exact foldl_insert_of_disjoint (hpicked ▸ hnames) (by simp [Assoc.keys])
  rw [c.all_decides.gives h, List.map_congr_left hassignment, hsizes, hiterators, hpicks]

end Combinations

/-! ### Registries -/

namespace Registry

open Outcome

/-- The values of an iterator, none if it is not declared. -/
def domain (r : Registry) (n : String) : List String := (r.domain? n).getD []

theorem combinations_ok {r : Registry} {names : List String} {c : Combinations}
    (h : r.combinations names = .ok c) :
    (∀ n ∈ names, r.domain? n = some (r.domain n)) ∧
      c.iterators = names.map fun n ↦ (n, r.domain n) := by
  obtain ⟨iterators, hfound, hc⟩ := bind_eq_ok_iff.mp h
  obtain rfl := Except.ok.inj hc
  have hpairs := Pairing.mapM_eq_ok_iff.mp hfound
  have hdeclared : List.Forall₂
      (fun n p ↦ r.domain? n = some (r.domain n) ∧ p = (n, r.domain n)) names iterators := by
    refine hpairs.imp fun n p hp ↦ ?_
    cases hdomain : r.domain? n with
    | none => simp [hdomain] at hp
    | some values => simp_all [domain]
  constructor
  · intro n hn
    obtain ⟨p, -, hp⟩ := Pairing.exists_right hdeclared hn
    exact hp.1
  · have hequal : List.Forall₂ (· = ·) (names.map fun n ↦ (n, r.domain n)) iterators :=
      List.forall₂_map_left_iff.mpr (hdeclared.imp fun n p hp ↦ hp.2.symm)
    rw [List.forall₂_eq_eq_eq] at hequal
    exact hequal.symm

/-- The registry after a number of declarations. -/
def ofCalls (calls : List (String × List String)) : Except ExpansionError Registry :=
  calls.foldlM (fun r (name, values) ↦ r.declare name values) {}

/-- The values an iterator was last declared with. -/
def lastDeclared (calls : List (String × List String)) (n : String) : List String :=
  (calls.reverse.lookup n).getD []

theorem domains_of_declare {r r' : Registry} {name : String} {values : List String}
    (h : r.declare name values = .ok r') : r'.domains = Assoc.insert name values r.domains := by
  rw [declare] at h
  split at h
  · simp at h
  · split at h
    · simp at h
    · split at h
      · simp at h
      · obtain rfl := Except.ok.inj h
        rfl

theorem domain?_of_ofCalls {calls : List (String × List String)} {r : Registry}
    (h : ofCalls calls = .ok r) (n : String) : r.domain? n = calls.reverse.lookup n := by
  induction calls using List.reverseRecOn generalizing r with
  | nil =>
    obtain rfl := Except.ok.inj h
    rfl
  | append_singleton calls call ih =>
    obtain ⟨name, values⟩ := call
    rw [ofCalls, List.foldlM_append] at h
    obtain ⟨before, hbefore, h⟩ := bind_eq_ok_iff.mp h
    obtain ⟨after, hcall, hafter⟩ := bind_eq_ok_iff.mp h
    obtain rfl := Except.ok.inj hafter
    rw [domain?, domains_of_declare hcall, List.reverse_concat, List.lookup_cons]
    by_cases hn : n = name
    · simp [hn]
    · have hne : (n == name) = false := by simpa using hn
      rw [Assoc.lookup_insert_of_ne hn, hne]
      exact ih hbefore

/-- The last declaration of an iterator counts. -/
theorem domain_of_ofCalls {calls : List (String × List String)} {r : Registry}
    (h : ofCalls calls = .ok r) : r.domain = lastDeclared calls := by
  funext n
  rw [domain, domain?_of_ofCalls h, lastDeclared]

end Registry

end TelemetrySim
