import TelemetrySim.Proofs.Quoted
import TelemetrySim.Proofs.Resolution.Diagnosis

/-!
Messages about names that are not found. Such a message can be told from all others by the way it
begins, and its parts can be read back from it (`Problem.notFound_of_message`). So what it says is
true, of the text itself (`Decl.Document.notFound_truthful`).
-/

set_option autoImplicit false
set_option relaxedAutoImplicit false

namespace TelemetrySim

/-! ### How messages begin -/

/-- The words that the message of a problem begins with, up to the first name or number. -/
def Problem.opening : Problem → String
  | nameClash _ => "name "
  | sharedDeclaration _ => "declaration cannot reference instance "
  | notFound wanted _ _ => wanted.label ++ " "
  | cycle .. => "cycle detected between "
  | overridden _ => "cannot override instance "
  | clockTypeRequired => "clock type required"
  | clockIntervalRequired => "clock interval required"
  | clockIntervalZero => "clock interval must be greater than 0"
  | sourceTypeRequired => "source type required"
  | sourceBounds .. => "source min "
  | sourceRequired => "source required"
  | clockRequired => "clock required (either on value or source)"
  | metricTypeRequired => "type required"
  | invalidMetricType _ => "invalid type "
  | descriptionRequired => "description required"
  | valueRequired => "value required"
  | invalidAttribute _ => "invalid attribute name "
  | duplicateSeries _ => "duplicate series: metric at index "
  | twoExporters => "only one exporter can be enabled at a time (prometheus or otel)"
  | invalidPort _ => "invalid port "
  | invalidPath _ => "invalid path "
  | invalidTransport _ => "invalid transport "
  | emptyHost => "host cannot be empty"
  | exportIntervalZero => "interval must be greater than 0"
  | invalidFormat _ => "invalid format "

/-- The text begins with another one. -/
def Opens (a s : String) : Prop := a.toList <+: s.toList

theorem Opens.refl (a : String) : Opens a a := List.prefix_rfl

theorem Opens.append {a s : String} (h : Opens a s) (t : String) : Opens a (s ++ t) := by
  rw [Opens, String.toList_append]
  exact h.trans (List.prefix_append _ _)

theorem Problem.opens_message (p : Problem) : Opens p.opening p.message := by
  cases p with
  | overridden | invalidAttribute => exact (Opens.refl _).append _
  | sharedDeclaration | invalidMetricType | duplicateSeries | invalidPort | invalidPath
  | invalidTransport | invalidFormat => exact ((Opens.refl _).append _).append _
  | notFound | cycle | sourceBounds => exact (((Opens.refl _).append _).append _).append _
  | nameClash => exact (((((Opens.refl _).append _).append _).append _).append _).append _
  | _ => exact Opens.refl _

/-- One of the texts begins with the other. -/
def Alike (a b : String) : Prop := a.toList <+: b.toList ∨ b.toList <+: a.toList

instance (a b : String) : Decidable (Alike a b) := inferInstanceAs (Decidable (_ ∨ _))

theorem alike_of_opens {a b s : String} (ha : Opens a s) (hb : Opens b s) : Alike a b :=
  List.prefix_or_prefix_of_prefix ha hb

theorem Entity.eq_of_alike {e e' : Entity} (h : Alike (e.label ++ " ") (e'.label ++ " ")) :
    e = e' := by
  obtain ⟨k, o⟩ := e
  obtain ⟨k', o'⟩ := e'
  revert h
  cases k <;> cases o <;> cases k' <;> cases o' <;> decide

/-- No other message begins with what is wanted. -/
theorem Problem.eq_notFound_of_alike {p : Problem} {e : Entity}
    (h : Alike p.opening (e.label ++ " ")) : ∃ n actual, p = .notFound e n actual := by
  cases p with
  | notFound wanted n actual =>
    obtain rfl := Entity.eq_of_alike h
    exact ⟨n, actual, rfl⟩
  | _ =>
    refine absurd h ?_
    obtain ⟨k, o⟩ := e
    simp only [opening]
    cases k <;> cases o <;> decide

/-! ### Reading messages back -/

/-- What a message adds about a name that is declared as something else. -/
def addition (n : String) (e : Entity) : String :=
  " (" ++ Text.quoted n ++ " is a " ++ e.label ++ ")"

theorem Problem.message_notFound (wanted : Entity) (n : String) (actual : Option Entity) :
    (notFound wanted n actual).message =
      wanted.label ++ " " ++ Text.quoted n ++ " not found" ++
        (actual.map (addition n)).getD "" := by
  cases actual <;> rfl

theorem addition_inj {n : String} {e e' : Entity} (h : addition n e = addition n e') :
    e = e' := by
  have hlabel : e.label = e'.label :=
    (String.append_right_inj _).mp ((String.append_left_inj _).mp h)
  exact Entity.eq_of_alike (.inl (by rw [hlabel]))

theorem addition_ne_empty (n : String) (e : Entity) : addition n e ≠ "" := by
  intro h
  exact absurd (String.append_eq_empty_iff.mp h).2 (by decide)

/-- A message of the form in which names are not found is about such a name, and this one. -/
theorem Problem.notFound_of_message {p : Problem} {wanted : Entity} {n rest : String}
    (h : p.message = wanted.label ++ " " ++ Text.quoted n ++ " not found" ++ rest) :
    ∃ actual, p = .notFound wanted n actual ∧ rest = (actual.map (addition n)).getD "" := by
  have hwanted : Opens (wanted.label ++ " ") p.message := by
    rw [h]
    exact (((Opens.refl _).append _).append _).append _
  obtain ⟨m, actual, rfl⟩ := eq_notFound_of_alike (alike_of_opens p.opens_message hwanted)
  have hassoc : ∀ s t u v : String, s ++ t ++ u ++ v = s ++ (t ++ (u ++ v)) := fun s t u v ↦ by
    rw [String.append_assoc, String.append_assoc]
  rw [message_notFound, hassoc, hassoc] at h
  obtain ⟨rfl, hrest⟩ := Text.quoted_append_inj ((String.append_right_inj _).mp h)
  exact ⟨actual, rfl, ((String.append_right_inj _).mp hrest).symm⟩

/-! ### What is said of a name -/

open Resolution

/-- What the message about a name that is not found says is true. The name is not declared as what
is wanted; what it is said to be it is declared as, and that is something else; and this is said
whenever the name is declared as something of the kind whose phase fails or of an earlier one. -/
theorem Decl.Document.notFound_truthful {d : Document} {f : Failure} {wanted : Entity}
    {n rest : String} (h : d.compile = .error (.unresolved f))
    (hmessage : f.problem.message =
      wanted.label ++ " " ++ Text.quoted n ++ " not found" ++ rest) :
    ∃ x k, d.expand = .ok x ∧ Raised x k f ∧ (n, wanted) ∉ x.claims ∧
      (rest = "" ∨ ∃ e, rest = addition n e) ∧
      (∀ e, rest = addition n e → (n, e) ∈ x.claims ∧ e ≠ wanted) ∧
      ∀ e, (n, e) ∈ x.claims → e.kind.rank ≤ k.rank → rest = addition n e := by
  obtain ⟨actual, hproblem, rfl⟩ := Problem.notFound_of_message hmessage
  obtain ⟨x, hexpand, hresolve⟩ := compile_eq_unresolved_iff.mp h
  rcases raised_or_outer hresolve with ⟨k, hraised⟩ | ⟨-, hlocal⟩
  · have htells := hraised.explained.tells wanted n actual hproblem
    refine ⟨x, k, hexpand, hraised, htells.absent, ?_, fun e he ↦ ?_, fun e he hkind ↦ ?_⟩
    · cases actual with
      | none => exact .inl rfl
      | some e => exact .inr ⟨e, rfl⟩
    · cases actual with
      | none => exact absurd he.symm (addition_ne_empty n e)
      | some e' =>
        obtain rfl := addition_inj he
        exact htells.other e' rfl
    · rw [htells.said e he hkind]
      rfl
  · simp [hproblem, Problem.isLocal] at hlocal

/-! ### A demonstration -/

namespace Demo

/-- The clock that the stray source refers to is a template. -/
theorem astray_truthful :
    (astray document).compile = .error (.unresolved astrayFailure) ∧
      astrayFailure.problem.message = (Entity.mk .clock .shared).label ++ " " ++
        Text.quoted "second" ++ " not found" ++ addition "second" ⟨.clock, .template⟩ ∧
      ∃ x k, (astray document).expand = .ok x ∧ Raised x k astrayFailure ∧
        ("second", ⟨.clock, .shared⟩) ∉ x.claims ∧ ("second", ⟨.clock, .template⟩) ∈ x.claims := by
  have hcompile : (astray document).compile = .error (.unresolved astrayFailure) := by
    with_unfolding_all rfl
  have hmessage := Problem.message_notFound ⟨.clock, .shared⟩ "second" (some ⟨.clock, .template⟩)
  obtain ⟨x, k, hexpand, hraised, habsent, -, hother, -⟩ :=
    Decl.Document.notFound_truthful hcompile hmessage
  exact ⟨hcompile, hmessage, x, k, hexpand, hraised, habsent, (hother _ rfl).1⟩

end Demo

end TelemetrySim
