import TelemetrySim.Proofs.Live.KnownKinds
import TelemetrySim.Proofs.Live.Streams
import TelemetrySim.Proofs.Scatter

/-!
Seeds of sources. A circuit gives its sources the seeds of the streams that follow each other
(`Circuit.Seeded.streams_eq`). Streams are numbered by words, and no two numbers lead to one seed
(`child_advanceBy_inj`), so the seeds differ as long as there is a number for each
(`nodup_children_iff`).
-/

set_option autoImplicit false
set_option relaxedAutoImplicit false

namespace TelemetrySim

/-! ### Streams that follow each other -/

namespace Random.Seeds

variable {s : Seeds} {n i j : Nat}

/-- The seeds of the next streams. -/
def children (n : Nat) (s : Seeds) : List UInt64 := (List.range n).map fun i ↦ (s.advanceBy i).child

/-- Two streams have the same seed if their numbers are the same word. -/
theorem child_advanceBy_inj :
    (s.advanceBy i).child = (s.advanceBy j).child ↔ i % UInt64.size = j % UInt64.size := by
  rw [advanceBy_eq, advanceBy_eq, child, child, (childSeed_bijective s.master).injective.eq_iff,
    UInt64.add_right_inj, ← UInt64.toNat_inj, UInt64.toNat_ofNat', UInt64.toNat_ofNat']

theorem nodup_children_iff : (s.children n).Nodup ↔ n ≤ UInt64.size := by
  rw [children, List.nodup_map_iff_inj_on List.nodup_range]
  simp only [List.mem_range, child_advanceBy_inj]
  constructor
  · intro hinj
    by_contra hlt
    have hzero := hinj 0 (by omega) UInt64.size (by omega) (by decide)
    exact absurd hzero (by decide)
  · intro hle i hi j hj hsame
    rwa [Nat.mod_eq_of_lt (by omega), Nat.mod_eq_of_lt (by omega)] at hsame

end Random.Seeds

namespace Live

/-! ### Sources -/

/-- The sources have the streams that follow each other, in the order in which they were made. -/
theorem Circuit.Seeded.streams_eq {ρ : Type} [Random.Rng ρ] {seeds : Random.Seeds} {n : Nat}
    {c : Circuit ρ} (h : c.Seeded seeds n) :
    c.sources.toList.map (·.stream) = (seeds.children n).map Random.Rng.ofSeed := by
  refine List.ext_getElem ?_ fun s hs hs' ↦ ?_
  · simp [Random.Seeds.children, h.count]
  · have hlt : s < c.sources.size := by simpa using hs
    obtain ⟨hstream, -⟩ := h.stream s _ (Array.getElem?_eq_getElem hlt)
    simpa [Random.Seeds.children] using hstream

/-- A seed tells which stream it belongs to: every word is the seed of exactly one stream of a
master seed, and of a stream for exactly one master seed. So the sources of a generator draw from
streams with pairwise different seeds, unless there are more sources than words. -/
theorem Generator.seeds_apart :
    (∀ master, Function.Bijective (Random.childSeed master)) ∧
      (∀ stream, Function.Bijective fun master ↦ Random.childSeed master stream) ∧
      ∀ (ρ : Type) [Random.Rng ρ] (seeds : Random.Seeds) (config : Config)
        (g : Generator (Circuit ρ)), Generator.ofConfig seeds config = .ok g →
          g.circuit.sources.toList.map (·.stream) =
              (seeds.children g.sourceCount).map Random.Rng.ofSeed ∧
            ((seeds.children g.sourceCount).Nodup ↔ g.sourceCount ≤ UInt64.size) := by
  refine ⟨Random.childSeed_bijective, Random.childSeed_bijective_master,
    fun ρ _ seeds config g h ↦ ?_⟩
  exact ⟨(seeded_of_config h).streams_eq, Random.Seeds.nodup_children_iff⟩

/-- The sources of the demonstration have different seeds. -/
theorem demo_seeds_apart : ∃ g : Generator,
    Generator.ofConfig (.ofSetting none 7) Demo.config = .ok g ∧
    g.circuit.sources.toList.map (·.stream) =
      ((Random.Seeds.ofSetting none 7).children 3).map Random.Rng.ofSeed ∧
    ((Random.Seeds.ofSetting none 7).children 3).Nodup := by
  obtain ⟨g, hg⟩ := demo_builds (.ofSetting none 7)
  have hcount : g.sourceCount = 3 := by
    have hmade : (Generator.ofConfig (.ofSetting none 7) Demo.config : Except _ Generator).map
        (·.sourceCount) = .ok 3 := by
      with_unfolding_all rfl
    rw [hg] at hmade
    exact Except.ok.inj hmade
  obtain ⟨hstreams, hnodup⟩ := Generator.seeds_apart.2.2 _ _ _ g hg
  rw [hcount] at hstreams hnodup
  exact ⟨g, hg, hstreams, hnodup.mpr (by decide)⟩

end Live

end TelemetrySim
