import Mathlib.Data.Set.Basic
import TelemetrySim.Proofs.Live.Build
import TelemetrySim.Proofs.Live.Directory
import TelemetrySim.Proofs.Live.KnownKinds

/-!
Objects are shared exactly as the references say. What a metric refers to is put into a key for its
source and a key for its clock. While the metrics are built, two directories say which object stands
for which key; a step of building either finds its key there or adds it with a new object, so
metrics have the same object exactly if they have the same key. This holds for every maker that never
hands out an object twice, of which `Factory.Ledger` keeps the record.
-/

set_option autoImplicit false
set_option relaxedAutoImplicit false

namespace TelemetrySim.Live

open Outcome

/-! ### Makers of new objects -/

/-- The objects that a maker has handed out, as far as its state tells. -/
structure Issued (σ : Type) where
  clocks : σ → Set ClockId
  sources : σ → Set SourceId
  values : σ → Set ValueId

/-- No object that has been handed out is forgotten. -/
structure Issued.Kept {σ : Type} (I : Issued σ) (s t : σ) : Prop where
  clocks : I.clocks s ⊆ I.clocks t
  sources : I.sources s ⊆ I.sources t
  values : I.values s ⊆ I.values t

namespace Issued.Kept

variable {σ : Type} {I : Issued σ} {s t u : σ}

theorem refl (I : Issued σ) (s : σ) : I.Kept s s :=
  ⟨Set.Subset.refl _, Set.Subset.refl _, Set.Subset.refl _⟩

theorem trans (hst : I.Kept s t) (htu : I.Kept t u) : I.Kept s u :=
  ⟨hst.clocks.trans htu.clocks, hst.sources.trans htu.sources, hst.values.trans htu.values⟩

end Issued.Kept

/-- The record of a maker that never hands out an object twice. -/
structure Factory.Ledger {σ : Type} (F : Factory σ) extends Issued σ where
  clock_fresh : ∀ {spec s id t}, F.clock spec s = .ok (id, t) →
    id ∉ clocks s ∧ id ∈ clocks t ∧ toIssued.Kept s t
  source_fresh : ∀ {spec clock s id t}, F.source spec clock s = .ok (id, t) →
    id ∉ sources s ∧ id ∈ sources t ∧ toIssued.Kept s t
  value_fresh : ∀ {spec source s id t}, F.value spec source s = .ok (id, t) →
    id ∉ values s ∧ id ∈ values t ∧ toIssued.Kept s t

section Circuit

variable {ρ : Type} {c t : Circuit ρ} {id : Nat}

/-- All objects of a circuit have been handed out. -/
def Circuit.issued : Issued (Circuit ρ) where
  clocks c := {id | id < c.clocks.size}
  sources c := {id | id < c.sources.size}
  values c := {id | id < c.values.size}

theorem Circuit.issued_kept (hclocks : c.clocks.size ≤ t.clocks.size)
    (hsources : c.sources.size ≤ t.sources.size) (hvalues : c.values.size ≤ t.values.size) :
    Circuit.issued.Kept c t where
  clocks _ hid := Nat.lt_of_lt_of_le hid hclocks
  sources _ hid := Nat.lt_of_lt_of_le hid hsources
  values _ hid := Nat.lt_of_lt_of_le hid hvalues

variable [Random.Rng ρ]

theorem Circuit.issued_clock {spec : ClockSpec} (h : Circuit.factory.clock spec c = .ok (id, t)) :
    id ∉ Circuit.issued.clocks c ∧ id ∈ Circuit.issued.clocks t ∧ Circuit.issued.Kept c t := by
  obtain ⟨rfl, rfl⟩ := addClock_ok h
  refine ⟨Nat.lt_irrefl _, ?_, issued_kept ?_ (Nat.le_refl _) (Nat.le_refl _)⟩
  · show c.clocks.size < (c.clocks.push _).size
    rw [Array.size_push]
    omega
  · show c.clocks.size ≤ (c.clocks.push _).size
    rw [Array.size_push]
    omega

theorem Circuit.issued_source {spec : SourceSpec} {clock : ClockId}
    (h : Circuit.factory.source spec clock c = .ok (id, t)) :
    id ∉ Circuit.issued.sources c ∧ id ∈ Circuit.issued.sources t ∧ Circuit.issued.Kept c t := by
  obtain ⟨rfl, rfl⟩ := addSource_ok h
  refine ⟨Nat.lt_irrefl _, ?_, issued_kept ?_ ?_ (Nat.le_refl _)⟩
  · show c.sources.size < (c.sources.push _).size
    rw [Array.size_push]
    omega
  · show c.clocks.size ≤ (c.clocks.modify clock _).size
    rw [Array.size_modify]
  · show c.sources.size ≤ (c.sources.push _).size
    rw [Array.size_push]
    omega

theorem Circuit.issued_value {spec : ValueSpec} {source : SourceId}
    (h : Circuit.factory.value spec source c = .ok (id, t)) :
    id ∉ Circuit.issued.values c ∧ id ∈ Circuit.issued.values t ∧ Circuit.issued.Kept c t := by
  obtain ⟨rfl, rfl⟩ := Prod.mk.inj (Except.ok.inj h)
  refine ⟨Nat.lt_irrefl _, ?_, issued_kept (Nat.le_refl _) ?_ ?_⟩
  · show c.values.size < (c.values.push _).size
    rw [Array.size_push]
    omega
  · show c.sources.size ≤ (c.sources.modify source _).size
    rw [Array.size_modify]
  · show c.values.size ≤ (c.values.push _).size
    rw [Array.size_push]
    omega

/-- A circuit numbers its objects one after the other, so it hands out none of them twice. -/
def Circuit.ledger : (Circuit.factory : Factory (Circuit ρ)).Ledger where
  toIssued := Circuit.issued
  clock_fresh := Circuit.issued_clock
  source_fresh := Circuit.issued_source
  value_fresh := Circuit.issued_value

end Circuit

/-! ### Keys -/

/-- What the source of a metric is shared by. -/
inductive SourceKey where
  | shared (name : String)
  | own (metric : Nat)
deriving DecidableEq

/-- What the clock of a metric is shared by. -/
inductive ClockKey where
  | named (name : String)
  | ofSource (name : String)
  | own (metric : Nat)
deriving DecidableEq

/-- A value without a clock of its own shares the source that its marker names. -/
def sourceKey (metric : Nat) (v : Config.Value) : SourceKey :=
  match v.sourceRef, v.clock with
  | some name, none => .shared name
  | _, _ => .own metric

/-- A marker names the clock of a source; a clock without one is the source's alone. -/
def ClockKey.ofMarker (marker : Option String) (source : SourceKey) : ClockKey :=
  match marker, source with
  | some name, _ => .named name
  | none, .shared name => .ofSource name
  | none, .own metric => .own metric

def clockKey (metric : Nat) (v : Config.Value) : ClockKey :=
  .ofMarker (v.effectiveClock.bind (·.2)) (sourceKey metric v)

/-- The keys of metrics, the first of which has a number. -/
def metricKeys {κ : Type} (key : Nat → Config.Value → κ) : Nat → List Config.Metric → List κ
  | _, [] => []
  | n, m :: rest => key n m.value :: metricKeys key (n + 1) rest

section

variable {κ : Type} (key : Nat → Config.Value → κ)

theorem length_metricKeys (n : Nat) (ms : List Config.Metric) :
    (metricKeys key n ms).length = ms.length := by
  induction ms generalizing n with
  | nil => rfl
  | cons m rest ih => rw [metricKeys, List.length_cons, List.length_cons, ih]

theorem getElem?_metricKeys (n : Nat) (ms : List Config.Metric) (i : Nat) :
    (metricKeys key n ms)[i]? = ms[i]?.map fun m ↦ key (n + i) m.value := by
  induction ms generalizing n i with
  | nil => rfl
  | cons m rest ih =>
    cases i with
    | zero => rfl
    | succ i =>
      have hindex : n + (i + 1) = n + 1 + i := by omega
      rw [metricKeys, List.getElem?_cons_succ, List.getElem?_cons_succ, ih, hindex]

end

theorem ClockKey.ofMarker_none_inj {key key' : SourceKey}
    (h : ofMarker none key = ofMarker none key') : key = key' := by
  cases key <;> cases key' <;> simp_all [ofMarker]

/-! ### Clocks and sources of a builder -/

section Tracking

variable {σ : Type} {F : Factory σ} {L : F.Ledger} {instances : Config.Instances} {b b' : Builder σ}
  {clocks : Directory ClockKey} {sources : Directory SourceKey}

/-- The directory has the clocks of the builder, the shared ones under their names. -/
structure TracksClocks (L : F.Ledger) (b : Builder σ) (clocks : Directory ClockKey) : Prop where
  ids : clocks.ids = b.clockList
  issued : ∀ id ∈ clocks.ids, id ∈ L.clocks b.objects
  named : ∀ name id, b.clocks.lookup name = some id ↔ (.named name, id) ∈ clocks.entries

/-- The directory has the sources of the builder. -/
structure TracksSources (L : F.Ledger) (b : Builder σ) (sources : Directory SourceKey) : Prop where
  count : sources.entries.length = b.sourceCount
  issued : ∀ id ∈ sources.ids, id ∈ L.sources b.objects

/-- A new clock is one more entry, also in the table of shared clocks if it has a name. -/
theorem TracksClocks.newClock (hb : TracksClocks L b clocks) {key : ClockKey}
    (hkey : key ∉ clocks.keys) {c : Config.Clock} {id : ClockId}
    (h : b.newClock F c = .ok (id, b')) (named : List (String × ClockId))
    (hnamed : ∀ name k, named.lookup name = some k ↔
      b.clocks.lookup name = some k ∨ key = .named name ∧ id = k) :
    ∃ clocks', TracksClocks L { b' with clocks := named } clocks' ∧
      clocks.Adds clocks' [(key, id)] ∧ L.Kept b.objects b'.objects := by
  obtain ⟨kind, objects, hmade, rfl⟩ := Builder.newClock_ok h
  obtain ⟨hfresh, hissued, hkept⟩ := L.clock_fresh hmade
  have hid : id ∉ clocks.ids := fun hold ↦ hfresh (hb.issued id hold)
  refine ⟨clocks.add key id hkey hid, ⟨?_, ?_, ?_⟩, Directory.adds_add hkey hid, hkept⟩
  · show (clocks.entries ++ [(key, id)]).map Prod.snd = b.clockList ++ [id]
    rw [List.map_append, ← hb.ids]
    rfl
  · intro k hk
    rcases Directory.mem_ids_add.mp hk with hold | rfl
    · exact hkept.clocks (hb.issued k hold)
    · exact hissued
  · intro name k
    rw [hnamed, hb.named, Directory.mem_entries_add, Prod.mk.injEq]
    constructor
    · rintro (hold | ⟨rfl, rfl⟩)
      · exact .inl hold
      · exact .inr ⟨rfl, rfl⟩
    · rintro (hold | ⟨rfl, rfl⟩)
      · exact .inl hold
      · exact .inr ⟨rfl, rfl⟩

theorem clock_tracks (hb : TracksClocks L b clocks) {key : SourceKey}
    (hkey : ClockKey.ofMarker none key ∉ clocks.keys) {c : Config.Clock} {marker : Option String}
    {id : ClockId} (h : b.clock F instances c marker = .ok (id, b')) :
    ∃ clocks', TracksClocks L b' clocks' ∧ clocks.Adds clocks' [(.ofMarker marker key, id)] ∧
      L.Kept b.objects b'.objects := by
  rcases Builder.clock_ok h with ⟨rfl, hnew⟩ | ⟨name, rfl, hcached, rfl⟩ |
    ⟨name, entry, made, rfl, hcached, -, hnew, rfl⟩
  · have hunnamed : ∀ name, ClockKey.ofMarker none key ≠ .named name := by
      intro name
      cases key <;> simp [ClockKey.ofMarker]
    obtain ⟨clocks', htracks, hadds, hkept⟩ := hb.newClock hkey hnew b.clocks fun name k ↦ by
      simp [hunnamed]
    rw [← (Builder.newClock_frame hnew).1] at htracks
    exact ⟨clocks', htracks, hadds, hkept⟩
  · have hentry : (.named name, id) ∈ clocks.entries := (hb.named name id).mp hcached
    exact ⟨clocks, hb, Directory.adds_self hentry, .refl _ _⟩
  · have habsent : ClockKey.named name ∉ clocks.keys := by
      intro hkey
      obtain ⟨⟨_, known⟩, hentry, rfl⟩ := List.mem_map.mp hkey
      simp [(hb.named name known).mpr hentry] at hcached
    have hnamed : ∀ other k, (made.clocks ++ [(name, id)]).lookup other = some k ↔
        b.clocks.lookup other = some k ∨ ClockKey.named name = .named other ∧ id = k := by
      intro other k
      rw [Assoc.lookup_concat_eq_some_iff, (Builder.newClock_frame hnew).1]
      constructor
      · rintro (hold | ⟨-, rfl, rfl⟩)
        · exact .inl hold
        · exact .inr ⟨rfl, rfl⟩
      · rintro (hold | ⟨hname, rfl⟩)
        · exact .inl hold
        · obtain rfl := ClockKey.named.inj hname
          exact .inr ⟨hcached, rfl, rfl⟩
    exact hb.newClock habsent hnew _ hnamed

theorem TracksClocks.of_kept (hb : TracksClocks L b clocks) (hkept : L.Kept b.objects b'.objects)
    (hlist : b'.clockList = b.clockList) (hclocks : b'.clocks = b.clocks) :
    TracksClocks L b' clocks where
  ids := by rw [hlist, hb.ids]
  issued id hid := hkept.clocks (hb.issued id hid)
  named := by rw [hclocks]; exact hb.named

theorem TracksSources.of_kept (hb : TracksSources L b sources)
    (hkept : L.Kept b.objects b'.objects) (hcount : b'.sourceCount = b.sourceCount) :
    TracksSources L b' sources where
  count := by rw [hcount, hb.count]
  issued id hid := hkept.sources (hb.issued id hid)

theorem TracksSources.newSource (hb : TracksSources L b sources) {key : SourceKey}
    (hkey : key ∉ sources.keys) {s : Config.Source} {clock : ClockId} {id : SourceId}
    (h : b.newSource F s clock = .ok (id, b')) :
    ∃ sources', TracksSources L b' sources' ∧ sources.Adds sources' [(key, id)] := by
  obtain ⟨kind, objects, hmade, rfl⟩ := Builder.newSource_ok h
  obtain ⟨hfresh, hissued, hkept⟩ := L.source_fresh hmade
  have hid : id ∉ sources.ids := fun hold ↦ hfresh (hb.issued id hold)
  refine ⟨sources.add key id hkey hid, ⟨?_, fun k hk ↦ ?_⟩, Directory.adds_add hkey hid⟩
  · show (sources.entries ++ [(key, id)]).length = b.sourceCount + 1
    rw [List.length_append, hb.count]
    rfl
  · rcases Directory.mem_ids_add.mp hk with hold | rfl
    · exact hkept.sources (hb.issued k hold)
    · exact hissued

theorem newFeed_tracks (hclocks : TracksClocks L b clocks) (hsources : TracksSources L b sources)
    {key : SourceKey} (hkey : key ∉ sources.keys)
    (hclock : ClockKey.ofMarker none key ∉ clocks.keys) {c : Config.Clock} {marker : Option String}
    {s : Config.Source} {feed : Feed} (h : b.newFeed F instances c marker s = .ok (feed, b')) :
    ∃ clocks' sources', TracksClocks L b' clocks' ∧ TracksSources L b' sources' ∧
      clocks.Adds clocks' [(.ofMarker marker key, feed.clock)] ∧
      sources.Adds sources' [(key, feed.source)] ∧ L.Kept b.objects b'.objects := by
  obtain ⟨made, hmade, hnew⟩ := Builder.newFeed_ok h
  obtain ⟨clocks', htracks, hadds, hkept⟩ := clock_tracks hclocks hclock hmade
  have hcount : made.sourceCount = b.sourceCount := (Builder.clock_frame hmade).2
  obtain ⟨sources', htracks', hadds'⟩ := (hsources.of_kept hkept hcount).newSource hkey hnew
  obtain ⟨kind, objects, hsource, rfl⟩ := Builder.newSource_ok hnew
  obtain ⟨-, -, hkept'⟩ := L.source_fresh hsource
  exact ⟨clocks', sources', htracks.of_kept hkept' rfl rfl, htracks', hadds, hadds',
    hkept.trans hkept'⟩

/-! ### The whole builder -/

/-- A key that metrics with a number below `n` may have. -/
def SourceKey.Met (feeds : List (String × Feed)) (n : Nat) : SourceKey → Prop
  | shared name => (feeds.lookup name).isSome
  | own metric => metric < n

/-- The directories have all that the builder has asked for while it built `n` metrics. -/
structure Tracks (L : F.Ledger) (instances : Config.Instances) (n : Nat) (b : Builder σ)
    (clocks : Directory ClockKey) (sources : Directory SourceKey) : Prop where
  tracksClocks : TracksClocks L b clocks
  tracksSources : TracksSources L b sources
  feeds : ∀ name feed, b.feeds.lookup name = some feed →
    (.shared name, feed.source) ∈ sources.entries ∧ ∃ s, instances.sources.lookup name = some s ∧
      (.ofMarker s.clockRef (.shared name), feed.clock) ∈ clocks.entries
  source_met : ∀ key ∈ sources.keys, key.Met b.feeds n
  clock_met : ∀ key, ClockKey.ofMarker none key ∈ clocks.keys → key.Met b.feeds n

theorem SourceKey.Met.mono {feeds feeds' : List (String × Feed)} {n n' : Nat} {key : SourceKey}
    (h : key.Met feeds n) (hfeeds : ∀ name, (feeds.lookup name).isSome → (feeds'.lookup name).isSome)
    (hn : n ≤ n') : key.Met feeds' n' := by
  cases key with
  | shared name => exact hfeeds name h
  | own metric => exact Nat.lt_of_lt_of_le h hn

namespace Tracks

variable {n n' : Nat}

theorem empty (objects : σ) : Tracks L instances 0 { objects := objects } {} {} where
  tracksClocks := ⟨rfl, by simp [Directory.ids], by simp⟩
  tracksSources := ⟨rfl, by simp [Directory.ids]⟩
  feeds := by simp
  source_met := by simp [Directory.keys]
  clock_met := by simp [Directory.keys]

theorem mono (hb : Tracks L instances n b clocks sources) (hn : n ≤ n') :
    Tracks L instances n' b clocks sources where
  tracksClocks := hb.tracksClocks
  tracksSources := hb.tracksSources
  feeds := hb.feeds
  source_met key hkey := (hb.source_met key hkey).mono (fun _ h ↦ h) hn
  clock_met key hkey := (hb.clock_met key hkey).mono (fun _ h ↦ h) hn

theorem of_kept (hb : Tracks L instances n b clocks sources) {objects : σ}
    (hkept : L.Kept b.objects objects) :
    Tracks L instances n { b with objects := objects } clocks sources where
  tracksClocks := hb.tracksClocks.of_kept hkept rfl rfl
  tracksSources := hb.tracksSources.of_kept hkept rfl
  feeds := hb.feeds
  source_met := hb.source_met
  clock_met := hb.clock_met

/-- A new source and its clock are tracked under a key that has not been met, whether or not they
are to be shared from then on. -/
theorem newFeed (hb : Tracks L instances n b clocks sources) {key : SourceKey}
    (hkey : ¬ key.Met b.feeds n) {c : Config.Clock} {marker : Option String} {s : Config.Source}
    {feed : Feed} (h : b.newFeed F instances c marker s = .ok (feed, b'))
    (feeds : List (String × Feed)) (hn : n ≤ n') (hmet : key.Met feeds n')
    (hold : ∀ name, (b.feeds.lookup name).isSome → (feeds.lookup name).isSome)
    (hnew : ∀ name known, feeds.lookup name = some known → b.feeds.lookup name = some known ∨
      key = .shared name ∧ known = feed ∧
        ∃ s, instances.sources.lookup name = some s ∧ s.clockRef = marker) :
    ∃ clocks' sources', Tracks L instances n' { b' with feeds := feeds } clocks' sources' ∧
      clocks.Adds clocks' [(.ofMarker marker key, feed.clock)] ∧
      sources.Adds sources' [(key, feed.source)] ∧ L.Kept b.objects b'.objects := by
  have hsource : key ∉ sources.keys := fun hold ↦ hkey (hb.source_met key hold)
  have hclock : ClockKey.ofMarker none key ∉ clocks.keys := fun hold ↦ hkey (hb.clock_met key hold)
  obtain ⟨clocks', sources', hclocks', hsources', haddsClock, haddsSource, hkept⟩ :=
    newFeed_tracks hb.tracksClocks hb.tracksSources hsource hclock h
  refine ⟨clocks', sources', ⟨?_, ?_, ?_, ?_, ?_⟩, haddsClock, haddsSource, hkept⟩
  · exact hclocks'.of_kept (.refl _ _) rfl rfl
  · exact hsources'.of_kept (.refl _ _) rfl
  · intro name known hknown
    rcases hnew name known hknown with hbefore | ⟨rfl, rfl, s, hs, rfl⟩
    · obtain ⟨hentry, s, hs, hentry'⟩ := hb.feeds name known hbefore
      exact ⟨haddsSource.kept hentry, s, hs, haddsClock.kept hentry'⟩
    · exact ⟨haddsSource.entry, s, hs, haddsClock.entry⟩
  · intro k hk
    rcases haddsSource.keys k hk with hbefore | hadded
    · exact (hb.source_met k hbefore).mono hold hn
    · obtain rfl : k = key := by simpa using hadded
      exact hmet
  · intro k hk
    rcases haddsClock.keys _ hk with hbefore | hadded
    · exact (hb.clock_met k hbefore).mono hold hn
    · have hsame : ClockKey.ofMarker none k = .ofMarker marker key := by simpa using hadded
      cases marker with
      | none =>
        obtain rfl := ClockKey.ofMarker_none_inj hsame
        exact hmet
      | some name => cases k <;> simp [ClockKey.ofMarker] at hsame

end Tracks

/-! ### Metrics -/

theorem sourceKey_own {v : Config.Value} (h : v.sourceRef = none ∨ v.clock.isSome) (n : Nat) :
    sourceKey n v = .own n := by
  rcases h with href | hclock
  · simp [sourceKey, href]
  · obtain ⟨c, hc⟩ := Option.isSome_iff_exists.mp hclock
    simp [sourceKey, hc]

theorem clockKey_shared {v : Config.Value} (hv : v.source.Marked instances.clocks) {name : String}
    (href : v.sourceRef = some name) (hclock : v.clock = none) (n : Nat) :
    clockKey n v = .ofMarker v.source.clockRef (.shared name) := by
  have hmarker : v.effectiveClock.bind (·.2) = v.source.clockRef := by
    cases hsource : v.source.clockRef with
    | none => cases hc : v.source.clock <;> simp [Config.Value.effectiveClock, hclock, hsource, hc]
    | some k =>
      obtain ⟨c, -, hc⟩ := hv k hsource
      simp [Config.Value.effectiveClock, hclock, hsource, hc]
  simp [clockKey, hmarker, sourceKey, href, hclock]

/-- The source of a shared entry and its clock are tracked under the keys of the entry, whether they
are there already or new. -/
theorem sharedFeed_tracks {n : Nat} (hb : Tracks L instances n b clocks sources) {name : String}
    {s : Config.Source} (hentry : instances.sources.lookup name = some s) {feed : Feed}
    (h : b.sharedFeed F instances name = .ok (feed, b')) :
    ∃ clocks' sources', Tracks L instances n b' clocks' sources' ∧
      clocks.Adds clocks' [(.ofMarker s.clockRef (.shared name), feed.clock)] ∧
      sources.Adds sources' [(.shared name, feed.source)] ∧ L.Kept b.objects b'.objects := by
  rcases Builder.sharedFeed_ok h with ⟨hcached, rfl⟩ | ⟨s', c, made, hcached, hs', -, hnew, rfl⟩
  · obtain ⟨hsource, s', hs', hclock⟩ := hb.feeds name feed hcached
    obtain rfl : s' = s := Option.some_inj.mp (hs'.symm.trans hentry)
    exact ⟨clocks, sources, hb, Directory.adds_self hclock, Directory.adds_self hsource, .refl _ _⟩
  · obtain rfl : s' = s := Option.some_inj.mp (hs'.symm.trans hentry)
    have hunmet : ¬ (SourceKey.shared name).Met b.feeds n := by simp [SourceKey.Met, hcached]
    have hlookup : ∀ other known, (made.feeds ++ [(name, feed)]).lookup other = some known ↔
        b.feeds.lookup other = some known ∨
          b.feeds.lookup other = none ∧ other = name ∧ feed = known := by
      intro other known
      rw [Assoc.lookup_concat_eq_some_iff, Builder.newFeed_frame hnew]
    refine hb.newFeed hunmet hnew _ (Nat.le_refl n) ?_ (fun other hold ↦ ?_)
      fun other known hknown ↦ ?_
    · have hadded := (hlookup name feed).mpr (.inr ⟨hcached, rfl, rfl⟩)
      simp [SourceKey.Met, hadded]
    · obtain ⟨known, hknown⟩ := Option.isSome_iff_exists.mp hold
      exact Option.isSome_iff_exists.mpr ⟨known, (hlookup other known).mpr (.inl hknown)⟩
    · rcases (hlookup other known).mp hknown with hold | ⟨-, rfl, rfl⟩
      · exact .inl hold
      · exact .inr ⟨rfl, rfl, s', hentry, rfl⟩

theorem feed_tracks {n : Nat} (hb : Tracks L instances n b clocks sources) {v : Config.Value}
    (hv : v.Marked instances.clocks instances.sources) {feed : Feed}
    (h : b.feed F instances v = .ok (feed, b')) :
    ∃ clocks' sources', Tracks L instances (n + 1) b' clocks' sources' ∧
      clocks.Adds clocks' [(clockKey n v, feed.clock)] ∧
      sources.Adds sources' [(sourceKey n v, feed.source)] ∧ L.Kept b.objects b'.objects := by
  rcases Builder.feed_ok h with ⟨name, href, hclock, hshared⟩ | ⟨hown, c, marker, hdriven, hnew⟩
  · have hkey : sourceKey n v = .shared name := by simp [sourceKey, href, hclock]
    rw [hkey, clockKey_shared hv.sourceClock href hclock]
    obtain ⟨clocks', sources', htracks, hadds⟩ :=
      sharedFeed_tracks hb (hv.source name href) hshared
    exact ⟨clocks', sources', htracks.mono (Nat.le_succ n), hadds⟩
  · have hkey : sourceKey n v = .own n := sourceKey_own hown n
    have hclock : clockKey n v = .ofMarker marker (.own n) := by simp [clockKey, hkey, hdriven]
    rw [hclock, hkey]
    have hunmet : ¬ (SourceKey.own n).Met b.feeds n := Nat.lt_irrefl n
    have hfeeds : b'.feeds = b.feeds := Builder.newFeed_frame hnew
    refine hb.newFeed hunmet hnew b'.feeds (Nat.le_succ n) (Nat.lt_succ_self n) ?_ ?_
    · rw [hfeeds]
      exact fun _ hold ↦ hold
    · rw [hfeeds]
      exact fun _ _ hold ↦ .inl hold

/-- One metric adds its keys, and its value is new. -/
theorem metric_tracks {n : Nat} (hb : Tracks L instances n b clocks sources) {v : Config.Value}
    (hv : v.Marked instances.clocks instances.sources) {handles : Handles}
    (h : b.metric F instances v = .ok (handles, b')) :
    (∃ clocks' sources', Tracks L instances (n + 1) b' clocks' sources' ∧
        clocks.Adds clocks' [(clockKey n v, handles.clock)] ∧
        sources.Adds sources' [(sourceKey n v, handles.source)]) ∧
      L.Kept b.objects b'.objects ∧
      handles.value ∉ L.values b.objects ∧ handles.value ∈ L.values b'.objects := by
  obtain ⟨made, spec, objects, hfeed, -, hvalue, rfl⟩ := Builder.metric_ok h
  obtain ⟨clocks', sources', htracks, haddsClock, haddsSource, hkept⟩ := feed_tracks hb hv hfeed
  obtain ⟨hfresh, hissued, hkept'⟩ := L.value_fresh hvalue
  exact ⟨⟨clocks', sources', htracks.of_kept hkept', haddsClock, haddsSource⟩,
    hkept.trans hkept', fun hold ↦ hfresh (hkept.values hold), hissued⟩

theorem metrics_tracks {ms : List Config.Metric} {n : Nat}
    (hb : Tracks L instances n b clocks sources)
    (hms : ∀ m ∈ ms, m.value.Marked instances.clocks instances.sources) {hs : List Handles}
    (h : b.metrics F instances n ms = .ok (hs, b')) :
    (∃ clocks' sources', Tracks L instances (n + ms.length) b' clocks' sources' ∧
        clocks.Adds clocks' ((metricKeys clockKey n ms).zip (hs.map (·.clock))) ∧
        sources.Adds sources' ((metricKeys sourceKey n ms).zip (hs.map (·.source)))) ∧
      hs.length = ms.length ∧ (hs.map (·.value)).Nodup ∧
      ∀ handles ∈ hs, handles.value ∉ L.values b.objects := by
  induction ms generalizing n b clocks sources hs with
  | nil =>
    obtain ⟨rfl, rfl⟩ := Prod.mk.inj (Except.ok.inj h)
    exact ⟨⟨clocks, sources, hb, clocks.adds_nil, sources.adds_nil⟩, rfl, by simp, by simp⟩
  | cons m rest ih =>
    obtain ⟨first, made, others, hfirst, hothers, rfl⟩ := Builder.metrics_cons_ok h
    obtain ⟨⟨clocks₁, sources₁, hmade, haddsClock, haddsSource⟩, hkept, hfresh, hissued⟩ :=
      metric_tracks hb (hms m (by simp)) hfirst
    obtain ⟨⟨clocks₂, sources₂, htracks, haddsClocks, haddsSources⟩, hlength, hnodup, hunissued⟩ :=
      ih hmade (fun m' hm' ↦ hms m' (by simp [hm'])) hothers
    refine ⟨⟨clocks₂, sources₂, ?_, haddsClock.append haddsClocks,
      haddsSource.append haddsSources⟩, ?_, ?_, ?_⟩
    · have hcount : n + (m :: rest).length = n + 1 + rest.length := by
        rw [List.length_cons]
        omega
      rw [hcount]
      exact htracks
    · rw [List.length_cons, List.length_cons, hlength]
    · rw [List.map_cons, List.nodup_cons]
      refine ⟨fun hmem ↦ ?_, hnodup⟩
      obtain ⟨other, hother, hsame⟩ := List.mem_map.mp hmem
      have hnew := hunissued other hother
      rw [hsame] at hnew
      exact hnew hissued
    · intro handles hhandles
      rcases List.mem_cons.mp hhandles with rfl | hother
      · exact hfresh
      · exact fun hold ↦ hunissued handles hother (hkept.values hold)

end Tracking

/-! ### Generators -/

section

variable {σ : Type}

/-- Metrics have the same object exactly if they have the same key, and there is no object that is
not behind a metric. -/
structure Generator.Shares (g : Generator σ) (ms : List Config.Metric) : Prop where
  size : g.metrics.size = ms.length
  source_eq_iff : ∀ i j h h' m m', g.handles? i = some h → g.handles? j = some h' →
    ms[i]? = some m → ms[j]? = some m' →
      (h.source = h'.source ↔ sourceKey i m.value = sourceKey j m'.value)
  clock_eq_iff : ∀ i j h h' m m', g.handles? i = some h → g.handles? j = some h' →
    ms[i]? = some m → ms[j]? = some m' →
      (h.clock = h'.clock ↔ clockKey i m.value = clockKey j m'.value)
  value_eq_iff : ∀ i j h h', g.handles? i = some h → g.handles? j = some h' →
    (h.value = h'.value ↔ i = j)
  clockCount : g.clockCount = (metricKeys clockKey 0 ms).toFinset.card
  sourceCount : g.sourceCount = (metricKeys sourceKey 0 ms).toFinset.card
  clockList_nodup : g.clockList.Nodup
  mem_clockList : ∀ id, id ∈ g.clockList ↔ ∃ i h, g.handles? i = some h ∧ h.clock = id

theorem eq_iff_of_nodup_map {α : Type} {f : Handles → α} {hs : List Handles}
    (hnodup : (hs.map f).Nodup) {i j : Nat} {h h' : Handles} (hi : hs[i]? = some h)
    (hj : hs[j]? = some h') : f h = f h' ↔ i = j := by
  have hleft : (hs.map f)[i]? = some (f h) := by
    rw [List.getElem?_map, hi]
    rfl
  have hright : (hs.map f)[j]? = some (f h') := by
    rw [List.getElem?_map, hj]
    rfl
  obtain ⟨hlt, -⟩ := List.getElem?_eq_some_iff.mp hleft
  rw [← List.getElem?_inj hlt hnodup, hleft, hright, Option.some_inj]

theorem Tracks.shares {F : Factory σ} {L : F.Ledger} {instances : Config.Instances} {n : Nat}
    {b : Builder σ} {clocks : Directory ClockKey} {sources : Directory SourceKey}
    (hb : Tracks L instances n b clocks sources) {ms : List Config.Metric} {hs : List Handles}
    (hlength : hs.length = ms.length)
    (hclocks : ({} : Directory ClockKey).Adds clocks
      ((metricKeys clockKey 0 ms).zip (hs.map (·.clock))))
    (hsources : ({} : Directory SourceKey).Adds sources
      ((metricKeys sourceKey 0 ms).zip (hs.map (·.source))))
    (hvalues : (hs.map (·.value)).Nodup) : (Generator.ofBuilder hs b).Shares ms := by
  have hids : clocks.ids = b.clockList := hb.tracksClocks.ids
  have hsame {κ : Type} (key : Nat → Config.Value → κ) (f : Handles → Nat) :
      (metricKeys key 0 ms).length = (hs.map f).length := by
    rw [length_metricKeys, List.length_map, hlength]
  have hkeys {κ : Type} {key : Nat → Config.Value → κ} {i : Nat} {m : Config.Metric}
      (hm : ms[i]? = some m) : (metricKeys key 0 ms)[i]? = some (key i m.value) := by
    rw [getElem?_metricKeys, hm, Nat.zero_add]
    rfl
  have hhandles {i : Nat} {h : Handles} (hi : hs.toArray[i]? = some h) : hs[i]? = some h := by
    rwa [List.getElem?_toArray] at hi
  have hobjects (f : Handles → Nat) {i : Nat} {h : Handles} (hi : hs.toArray[i]? = some h) :
      (hs.map f)[i]? = some (f h) := by
    rw [List.getElem?_map, hhandles hi]
    rfl
  constructor
  · exact hlength
  · intro i j h h' m m' hi hj hm hm'
    exact hsources.getElem?_eq_iff (hkeys hm) (hobjects _ hi) (hkeys hm') (hobjects _ hj)
  · intro i j h h' m m' hi hj hm hm'
    exact hclocks.getElem?_eq_iff (hkeys hm) (hobjects _ hi) (hkeys hm') (hobjects _ hj)
  · intro i j h h' hi hj
    exact eq_iff_of_nodup_map hvalues (hhandles hi) (hhandles hj)
  · show b.clockList.length = _
    rw [← hids, Directory.ids, List.length_map, hclocks.length_entries (hsame _ _)]
  · show b.sourceCount = _
    rw [← hb.tracksSources.count, hsources.length_entries (hsame _ _)]
  · show b.clockList.Nodup
    rw [← hids]
    exact clocks.ids_nodup
  · intro id
    show id ∈ b.clockList ↔ ∃ i, ∃ h : Handles, hs.toArray[i]? = some h ∧ h.clock = id
    rw [← hids, hclocks.mem_ids_iff (hsame _ _), List.mem_map]
    constructor
    · rintro ⟨h, hmem, rfl⟩
      obtain ⟨i, hi⟩ := List.mem_iff_getElem?.mp hmem
      exact ⟨i, h, by rw [List.getElem?_toArray, hi], rfl⟩
    · rintro ⟨i, h, hi, rfl⟩
      exact ⟨h, List.mem_of_getElem? (hhandles hi), rfl⟩

/-- Whatever maker builds a compiled configuration, objects are shared exactly as the references
say, as long as the maker never hands out an object twice. -/
theorem Generator.shares_of_build {d : Decl.Document} {config : Config}
    (hconfig : d.compile = .ok config) {F : Factory σ} (L : F.Ledger) {objects : σ}
    {g : Generator σ} (h : build F objects config.instances config.metrics = .ok g) :
    g.Shares config.metrics := by
  have hmarked := Resolution.marked.of_compile hconfig
  obtain ⟨⟨hs, b⟩, hmetrics, h⟩ := bind_eq_ok_iff.mp h
  obtain rfl := Except.ok.inj h
  obtain ⟨⟨clocks, sources, htracks, hclocks, hsources⟩, hlength, hvalues, -⟩ :=
    metrics_tracks (Tracks.empty (L := L) objects) hmarked.metrics hmetrics
  exact htracks.shares hlength hclocks hsources hvalues

end

/-- The demonstration has a generator, which shares its objects as the references say. -/
theorem demo_shares :
    Demo.document.compile = .ok Demo.config ∧
      ∃ g : Generator, Generator.build Circuit.factory { seeds := .ofSetting none 7 }
          Demo.config.instances Demo.config.metrics = .ok g ∧ g.Shares Demo.config.metrics := by
  obtain ⟨g, hg⟩ := demo_builds (.ofSetting none 7)
  exact ⟨Demo.compile_document, g, hg,
    Generator.shares_of_build Demo.compile_document Circuit.ledger hg⟩

-- The first two metrics share clock and source. The third has a clock that is not shared, and the
-- last one has the shared clock for itself, so it gets a source of its own.
example : (Generator.ofConfig (.ofSetting none 7) Demo.config : Except _ Generator).map
    (·.metrics) = .ok #[⟨0, 0, 0⟩, ⟨0, 0, 1⟩, ⟨1, 1, 2⟩, ⟨0, 2, 3⟩] := by
  rfl

end TelemetrySim.Live
