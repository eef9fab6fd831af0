import TelemetrySim.Compile
import TelemetrySim.Proofs.Domains
import TelemetrySim.Proofs.Pattern
import TelemetrySim.Proofs.Substitution

/-!
Documents that differ in their iterators only. An entry asks for the domains of the iterators that
it mentions, each by its name, so two registries that agree on what is mentioned expand a document
alike (`expand_congr`), with the same copies in the same order or with the same error. What is
resolved afterwards has no iterators any more. Nothing depends on the order of the iterators or on
those that are not mentioned (`alike_of_agreement`).
-/

set_option autoImplicit false
set_option relaxedAutoImplicit false

namespace TelemetrySim

open Outcome

/-! ### What is mentioned -/

namespace Decl

/-- The texts of an entry that are scanned. -/
def Entry.strings : Entry → List String
  | clock c => c.strings
  | source s => s.strings
  | value v => v.strings
  | metricTemplate m => m.strings
  | metric m => m.strings

theorem Entry.texts_eq (e : Entry) : Scanned.texts e = e.strings := by
  cases e with
  | clock c => exact c.texts_eq
  | source s => exact s.texts_eq
  | value v => exact v.texts_eq
  | metricTemplate m => exact m.texts_eq
  | metric m => exact m.texts_eq

namespace Document

/-- The text is scanned in an entry of some list of the document. -/
def Scans (d : Document) (t : String) : Prop := ∃ s, ∃ e ∈ d.entries s, t ∈ e.strings

/-- The name is in a placeholder of a text that is scanned. -/
def Mentions (d : Document) (n : String) : Prop := ∃ t, d.Scans t ∧ n ∈ Placeholder.names t

/-- The registries have the same domains for what is mentioned, or none in both. -/
def AgreeOn (d : Document) (r r' : Registry) : Prop :=
  ∀ n, d.Mentions n → r.domain? n = r'.domain? n

/-- The documents have the same iterators for what is mentioned, among whatever others and in
whatever order. -/
def SharesMentioned (d d' : Document) : Prop :=
  ∀ p : String × Domain, d.Mentions p.1 → (p ∈ d.iterators ↔ p ∈ d'.iterators)

/-- The documents come to the same configuration or the same error, and the same copies in the same
order on the way. -/
structure Alike (d d' : Document) : Prop where
  compile_eq : d'.compile = d.compile
  expand_eq : d'.expand = (fun x ↦ { x with iterators := d'.iterators }) <$> d.expand

/-- The placeholders of an element of a list are mentioned. -/
theorem mentions_of_mem_placeholders {α : Type} [Scanned α] {d : Document} {s : Section}
    {entries : List α} {view : α → Entry}
    (htexts : ∀ a, Scanned.texts (view a) = Scanned.texts a)
    (hentries : d.entries s = entries.map view) {a : α} (ha : a ∈ entries) {n : String}
    (hn : n ∈ Scanned.placeholders a) : d.Mentions n := by
  obtain ⟨t, ht, hn⟩ := List.mem_flatMap.mp (List.mem_eraseDups.mp hn)
  refine ⟨t, ⟨s, view a, hentries ▸ List.mem_map_of_mem ha, ?_⟩, hn⟩
  rwa [← Entry.texts_eq, htexts]

end Document

end Decl

/-! ### Expansion by what is mentioned -/

namespace Expansion

variable {α : Type} [Scanned α] {r r' : Registry} {s : Decl.Section} {entries : List α}

theorem expandFrom_congr {i : Nat}
    (h : ∀ a ∈ entries, ∀ n ∈ Scanned.placeholders a, r.domain? n = r'.domain? n) :
    expandFrom r s i entries = expandFrom r' s i entries := by
  induction entries generalizing i with
  | nil => rfl
  | cons a rest ih =>
    obtain ⟨ha, hrest⟩ := List.forall_mem_cons.mp h
    rw [expandFrom, expandFrom, expandEntry_congr ha, ih hrest]

/-- Of a list of a document only what is mentioned counts. -/
theorem expandEntries_congr {d : Decl.Document} (h : d.AgreeOn r r') (s : Decl.Section)
    (view : α → Decl.Entry) (htexts : ∀ a, Scanned.texts (view a) = Scanned.texts a)
    (hentries : d.entries s = entries.map view) :
    expandEntries r s entries = expandEntries r' s entries :=
  expandFrom_congr fun _ ha n hn ↦
    h n (Decl.Document.mentions_of_mem_placeholders htexts hentries ha hn)

end Expansion

namespace Decl.Document

open Expansion

variable {d d' : Document} {r r' : Registry} {iterators : List (String × Domain)}

theorem expand_congr (hr : Registry.ofDomains d.iterators = .ok r)
    (hr' : Registry.ofDomains iterators = .ok r') (h : d.AgreeOn r r') :
    { d with iterators := iterators }.expand =
      (fun x ↦ { x with iterators := iterators }) <$> d.expand := by
  unfold expand
  rw [show Registry.ofDomains d.iterators = pure r from hr,
    show Registry.ofDomains iterators = pure r' from hr']
  simp only [pure_bind, map_bind, map_pure]
  rw [expandEntries_congr h .templateClocks .clock (fun _ ↦ rfl) rfl,
    expandEntries_congr h .templateSources .source (fun _ ↦ rfl) rfl,
    expandEntries_congr h .templateValues .value (fun _ ↦ rfl) rfl,
    expandEntries_congr h .templateMetrics .metricTemplate (fun _ ↦ rfl) rfl,
    expandEntries_congr h .instanceClocks .clock (fun _ ↦ rfl) rfl,
    expandEntries_congr h .instanceSources .source (fun _ ↦ rfl) rfl,
    expandEntries_congr h .instanceValues .value (fun _ ↦ rfl) rfl,
    expandEntries_congr h .metrics .metric (fun _ ↦ rfl) rfl]

theorem compile_congr (hr : Registry.ofDomains d.iterators = .ok r)
    (hr' : Registry.ofDomains iterators = .ok r') (h : d.AgreeOn r r') :
    { d with iterators := iterators }.compile = d.compile := by
  unfold compile
  rw [expand_congr hr hr' h]
  cases d.expand with
  | error e => rfl
  | ok x => rfl

/-- Registries that agree on what is mentioned make no difference. -/
theorem alike_of_agreeOn (hbody : { d with iterators := d'.iterators } = d')
    (hr : Registry.ofDomains d.iterators = .ok r) (hr' : Registry.ofDomains d'.iterators = .ok r')
    (h : d.AgreeOn r r') : d.Alike d' := by
  have hcompile := compile_congr hr hr' h
  have hexpand := expand_congr hr hr' h
  rw [hbody] at hcompile hexpand
  exact ⟨hcompile, hexpand⟩

end Decl.Document

/-! ### Iterators by their names -/

/-- Under different names, the domain of a name is what stands with it, wherever that is. -/
theorem Registry.domain?_eq_some_iff {iterators : List (String × Decl.Domain)} {r : Registry}
    (hr : ofDomains iterators = .ok r) (hnames : (iterators.map (·.1)).Nodup) {n : String}
    {values : List String} :
    r.domain? n = some values ↔
      ∃ domain, (n, domain) ∈ iterators ∧ domain.texts n = .ok values := by
  induction iterators using List.reverseRecOn generalizing r with
  | nil =>
    obtain rfl := Except.ok.inj hr
    simp [domain?]
  | append_singleton iterators p ih =>
    obtain ⟨before, shown, hbefore, hshown, hdeclare⟩ := ofDomains_concat_iff.mp hr
    rw [List.map_append, List.nodup_append] at hnames
    rw [domain?, domains_of_declare hdeclare]
    by_cases hn : n = p.1
    · subst hn
      have hnew : ∀ domain, (p.1, domain) ∉ iterators := fun domain hmem ↦
        hnames.2.2 _ (List.mem_map_of_mem hmem) _ (List.mem_singleton.mpr rfl) rfl
      have hself : ∀ domain, (p.1, domain) ∈ iterators ++ [p] ↔ domain = p.2 := by
        intro domain
        simp [hnew, Prod.ext_iff]
      simp only [hself, exists_eq_left, hshown, Assoc.lookup_insert_self]
      rw [Option.some_inj, Except.ok.injEq]
    · rw [Assoc.lookup_insert_of_ne hn]
      refine (ih hbefore hnames.1).trans (exists_congr fun domain ↦ and_congr_left fun _ ↦ ?_)
      have hother : (n, domain) ≠ p := fun heq ↦ hn (congrArg Prod.fst heq)
      simp [hother]

namespace Decl.Document

variable {d d' : Document} {r r' : Registry}

theorem SharesMentioned.agreeOn (h : d.SharesMentioned d')
    (hr : Registry.ofDomains d.iterators = .ok r) (hr' : Registry.ofDomains d'.iterators = .ok r')
    (hnames : (d.iterators.map (·.1)).Nodup) (hnames' : (d'.iterators.map (·.1)).Nodup) :
    d.AgreeOn r r' := by
  intro n hn
  ext values
  rw [Registry.domain?_eq_some_iff hr hnames, Registry.domain?_eq_some_iff hr' hnames']
  exact exists_congr fun domain ↦ and_congr_left fun _ ↦ h (n, domain) hn

/-- Documents with the same body, and with iterators that are accepted, are compiled alike if the
domains of what is mentioned agree. So the order of the iterators does not count, nor do iterators
that are added or left out without being mentioned. -/
theorem alike_of_agreement (hbody : { d with iterators := d'.iterators } = d')
    (hr : Registry.ofDomains d.iterators = .ok r)
    (hr' : Registry.ofDomains d'.iterators = .ok r') :
    (d.AgreeOn r r' → d.Alike d') ∧
      ((d.iterators.map (·.1)).Nodup → (d'.iterators.map (·.1)).Nodup → d.SharesMentioned d' →
        d.Alike d') := by
  refine ⟨alike_of_agreeOn hbody hr hr', fun hnames hnames' h ↦ ?_⟩
  exact alike_of_agreeOn hbody hr hr' (h.agreeOn hr hr' hnames hnames')

end Decl.Document

/-! ### A demonstration

The iterators of the racks, written in the other order and with one that no rack mentions between
them. -/

namespace Demo

open Decl

def rack (zone unit : String) : Metric where
  name := .same ("rack_" ++ zone ++ "_" ++ unit)
  kind := some "gauge"
  description := some "Load"
  value := some { source := some {
    kind := some "random_int"
    clock := some { kind := some "periodic", interval := some (.ofSeconds 1) } } }

def racks : Document where
  iterators := [("zone", .values [.text "east", .text "west"]), ("unit", .range ⟨1, 3, 1⟩)]
  metrics := [rack "{zone}" "{unit}"]

def movedRacks : Document := { racks with
  iterators := [("unit", .range ⟨1, 3, 1⟩), ("spare", .values [.text "s"]),
    ("zone", .values [.text "east", .text "west"])] }

theorem racks_mentions {n : String} (h : racks.Mentions n) : n = "zone" ∨ n = "unit" := by
  obtain ⟨t, ⟨s, e, he, ht⟩, hn⟩ := h
  have hall : ∀ e ∈ racks.entries s, ∀ t ∈ e.strings, ∀ n ∈ Placeholder.names t,
      n = "zone" ∨ n = "unit" := by
    cases s <;> with_unfolding_all decide
  exact hall e he t ht n hn

/-- The racks come in the order of their zones, wherever the zones are declared. -/
theorem racks_alike :
    { racks with iterators := movedRacks.iterators } = movedRacks ∧
      ((racks.iterators.map (·.1)).Nodup ∧ (movedRacks.iterators.map (·.1)).Nodup) ∧
      (∃ r r', Registry.ofDomains racks.iterators = .ok r ∧
        Registry.ofDomains movedRacks.iterators = .ok r' ∧ racks.AgreeOn r r') ∧
      racks.SharesMentioned movedRacks ∧ racks.Alike movedRacks ∧
      racks.compile.map (·.metrics.map (·.displayName)) =
        .ok ["rack_east_1", "rack_east_2", "rack_west_1", "rack_west_2"] := by
  have hr : Registry.ofDomains racks.iterators =
      .ok ⟨[("zone", ["east", "west"]), ("unit", ["1", "2"])]⟩ := by with_unfolding_all rfl
  have hr' : Registry.ofDomains movedRacks.iterators =
      .ok ⟨[("unit", ["1", "2"]), ("spare", ["s"]), ("zone", ["east", "west"])]⟩ := by
    with_unfolding_all rfl
  have hnames : (racks.iterators.map (·.1)).Nodup := by decide
  have hnames' : (movedRacks.iterators.map (·.1)).Nodup := by decide
  have hshares : racks.SharesMentioned movedRacks := by
    rintro ⟨n, domain⟩ hn
    rcases racks_mentions hn with rfl | rfl
    · simp [racks, movedRacks]
    · simp [racks, movedRacks]
  obtain ⟨-, halike⟩ := Document.alike_of_agreement rfl hr hr'
  refine ⟨rfl, ⟨hnames, hnames'⟩, ⟨_, _, hr, hr', hshares.agreeOn hr hr' hnames hnames'⟩, hshares,
    halike hnames hnames' hshares, ?_⟩
  with_unfolding_all rfl

end Demo

end TelemetrySim
