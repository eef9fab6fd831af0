import Mathlib.Data.Fintype.Card
import Mathlib.Data.List.Nodup
import Mathlib.Data.Set.Finite.Basic
import Mathlib.Logic.Relation
import TelemetrySim.Resolution.Inheritance

/-!
Chains of bases. A declaration is based on at most one template, so following bases from it gives
one chain. Either the chain ends at a template without a base (`Grounded`), and then it can be
listed (`Chain`), or it goes on for ever; in a finite list it then runs into a cycle
(`forall_grounded_iff_acyclic`).
-/

set_option autoImplicit false
set_option relaxedAutoImplicit false

namespace TelemetrySim.Resolution

open Relation (ReflTransGen TransGen)
open Declared (name base)

variable {δ : Type} [Declared δ] {ds : List δ} {d d' : δ}

/-! ### One base -/

/-- Every base of a declaration is declared. -/
def BasesDeclared (ds : List δ) : Prop :=
  ∀ d ∈ ds, ∀ b, base d = some b → ∃ d' ∈ ds, name d' = b

/-- The base of a declaration is a template of the list. -/
def BasedOn (ds : List δ) (d d' : δ) : Prop := d' ∈ ds ∧ base d = some (name d')

theorem eq_of_name_eq (hnames : (ds.map name).Nodup) (hd : d ∈ ds) (hd' : d' ∈ ds)
    (h : name d = name d') : d = d' :=
  List.inj_on_of_nodup_map hnames hd hd' h

theorem BasedOn.unique (hnames : (ds.map name).Nodup) {first second : δ}
    (hfirst : BasedOn ds d first) (hsecond : BasedOn ds d second) : first = second := by
  refine eq_of_name_eq hnames hfirst.1 hsecond.1 (Option.some_inj.mp ?_)
  rw [← hfirst.2, hsecond.2]

/-! ### Chains that end -/

/-- The bases of a declaration lead to one that has no base. -/
def Grounded (ds : List δ) (d : δ) : Prop :=
  ∃ root, ReflTransGen (BasedOn ds) d root ∧ base root = none

theorem Grounded.of_base_eq_none (h : base d = none) : Grounded ds d := ⟨d, .refl, h⟩

theorem Grounded.of_basedOn (h : BasedOn ds d d') (hd' : Grounded ds d') : Grounded ds d := by
  obtain ⟨root, hreach, hroot⟩ := hd'
  exact ⟨root, .head h hreach, hroot⟩

/-- The templates that the name of a base leads to: the nearest first, the last without a base. -/
inductive Chain (ds : List δ) : Option String → List δ → Prop
  | nil : Chain ds none []
  | cons {d : δ} {l : List δ} (hd : d ∈ ds) (htail : Chain ds (base d) l) :
      Chain ds (some (name d)) (d :: l)

theorem Chain.unique (hnames : (ds.map name).Nodup) {b : Option String} {l l' : List δ}
    (h : Chain ds b l) (h' : Chain ds b l') : l = l' := by
  induction h generalizing l' with
  | nil =>
    cases h'
    rfl
  | @cons d l hd htail ih =>
    generalize hb : some (name d) = b' at h'
    cases h' with
    | nil => simp at hb
    | @cons d' l' hd' htail' =>
      obtain rfl : d = d' := eq_of_name_eq hnames hd hd' (Option.some_inj.mp hb)
      rw [ih htail']

theorem grounded_iff_chain : Grounded ds d ↔ ∃ l, Chain ds (base d) l := by
  constructor
  · rintro ⟨root, hreach, hroot⟩
    induction hreach using ReflTransGen.head_induction_on with
    | refl =>
      rw [hroot]
      exact ⟨[], .nil⟩
    | @head d d' hstep hreach ih =>
      obtain ⟨l, hl⟩ := ih
      rw [hstep.2]
      exact ⟨d' :: l, .cons hstep.1 hl⟩
  · rintro ⟨l, hl⟩
    generalize hb : base d = b at hl
    induction hl generalizing d with
    | nil => exact .of_base_eq_none hb
    | cons hd' htail ih => exact .of_basedOn ⟨hd', hb⟩ (ih rfl)

/-! ### Chains that do not end -/

/-- Declarations that all have a base, and whose bases are among them, lead nowhere. -/
theorem not_grounded_of_closed {stuck : List δ} (hbase : ∀ d ∈ stuck, base d ≠ none)
    (hclosed : ∀ d ∈ stuck, ∀ d', BasedOn ds d d' → d' ∈ stuck) (hd : d ∈ stuck) :
    ¬ Grounded ds d := by
  rintro ⟨root, hreach, hroot⟩
  have hmem : root ∈ stuck := by
    clear hroot
    induction hreach with
    | refl => exact hd
    | tail _ hstep ih => exact hclosed _ ih _ hstep
  exact hbase root hmem hroot

theorem Grounded.not_cyclic (hnames : (ds.map name).Nodup) (h : Grounded ds d) :
    ¬ TransGen (BasedOn ds) d d := by
  obtain ⟨root, hreach, hroot⟩ := h
  induction hreach using ReflTransGen.head_induction_on with
  | refl =>
    intro hcycle
    obtain ⟨d', hstep, -⟩ := TransGen.head'_iff.mp hcycle
    have hbase : base root = some (name d') := hstep.2
    rw [hroot] at hbase
    simp at hbase
  | @head d d' hstep hreach ih =>
    intro hcycle
    -- The cycle leaves `d` by its only base, so that base lies on a cycle as well.
    obtain ⟨e, hfirst, hrest⟩ := TransGen.head'_iff.mp hcycle
    obtain rfl : d' = e := hstep.unique hnames hfirst
    exact ih (TransGen.tail' hrest hstep)

/-- Without cycles a chain visits no declaration twice, so it ends. -/
theorem grounded_of_acyclic (hbases : BasesDeclared ds)
    (hacyclic : ∀ d ∈ ds, ¬ TransGen (BasedOn ds) d d) (hd : d ∈ ds) : Grounded ds d := by
  let below (first second : {d // d ∈ ds}) : Prop := TransGen (BasedOn ds) second.1 first.1
  have : IsTrans {d // d ∈ ds} below := ⟨fun _ _ _ hfirst hsecond ↦ hsecond.trans hfirst⟩
  have : Std.Irrefl below := ⟨fun d ↦ hacyclic d.1 d.2⟩
  have : Finite {d // d ∈ ds} := (List.finite_toSet ds).to_subtype
  have hwf : WellFounded below := Finite.wellFounded_of_trans_of_irrefl below
  have hall : ∀ d : {d // d ∈ ds}, Grounded ds d.1 := by
    intro d
    induction d using hwf.induction with
    | _ d ih =>
      cases hbase : base d.1 with
      | none => exact .of_base_eq_none hbase
      | some b =>
        obtain ⟨d', hd', rfl⟩ := hbases d.1 d.2 b hbase
        have hstep : BasedOn ds d.1 d' := ⟨hd', hbase⟩
        exact .of_basedOn hstep (ih ⟨d', hd'⟩ (.single hstep))
  exact hall ⟨d, hd⟩

/-- All chains end if and only if no declaration leads back to itself. -/
theorem forall_grounded_iff_acyclic (hnames : (ds.map name).Nodup) (hbases : BasesDeclared ds) :
    (∀ d ∈ ds, Grounded ds d) ↔ ∀ d ∈ ds, ¬ TransGen (BasedOn ds) d d :=
  ⟨fun h d hd ↦ (h d hd).not_cyclic hnames,
    fun h _ hd ↦ grounded_of_acyclic hbases h hd⟩

end TelemetrySim.Resolution
