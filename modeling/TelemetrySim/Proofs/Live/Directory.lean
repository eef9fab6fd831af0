import Mathlib.Data.Finset.Card
import Mathlib.Data.List.Nodup

/-!
Directories of objects: which object stands for which key. No key occurs twice, and no object stands
for two keys, so objects are the same exactly if their keys are (`Directory.id_eq_iff`).
-/

set_option autoImplicit false
set_option relaxedAutoImplicit false

namespace TelemetrySim.Live

/-- Keys and the objects that stand for them, one for one. -/
structure Directory (κ : Type) where
  entries : List (κ × Nat) := []
  keys_nodup : (entries.map Prod.fst).Nodup := by simp
  ids_nodup : (entries.map Prod.snd).Nodup := by simp

namespace Directory

variable {κ : Type} {d d' d'' : Directory κ} {key key' : κ} {id id' : Nat}

def keys (d : Directory κ) : List κ := d.entries.map Prod.fst

def ids (d : Directory κ) : List Nat := d.entries.map Prod.snd

theorem key_mem (h : (key, id) ∈ d.entries) : key ∈ d.keys := List.mem_map.mpr ⟨_, h, rfl⟩

theorem id_mem (h : (key, id) ∈ d.entries) : id ∈ d.ids := List.mem_map.mpr ⟨_, h, rfl⟩

/-- Two objects are the same exactly if they stand for the same key. -/
theorem id_eq_iff (h : (key, id) ∈ d.entries) (h' : (key', id') ∈ d.entries) :
    id = id' ↔ key = key' := by
  constructor
  · intro hid
    have hentry := List.inj_on_of_nodup_map d.ids_nodup h h' hid
    exact congrArg Prod.fst hentry
  · intro hkey
    have hentry := List.inj_on_of_nodup_map d.keys_nodup h h' hkey
    exact congrArg Prod.snd hentry

/-- One more entry. -/
def add (d : Directory κ) (key : κ) (id : Nat) (hkey : key ∉ d.keys) (hid : id ∉ d.ids) :
    Directory κ where
  entries := d.entries ++ [(key, id)]
  keys_nodup := by
    rw [List.map_append, List.map_singleton]
    exact List.nodup_append'.mpr ⟨d.keys_nodup, List.nodup_singleton key,
      List.disjoint_singleton.mpr hkey⟩
  ids_nodup := by
    rw [List.map_append, List.map_singleton]
    exact List.nodup_append'.mpr ⟨d.ids_nodup, List.nodup_singleton id,
      List.disjoint_singleton.mpr hid⟩

theorem mem_entries_add {hkey : key ∉ d.keys} {hid : id ∉ d.ids} {entry : κ × Nat} :
    entry ∈ (d.add key id hkey hid).entries ↔ entry ∈ d.entries ∨ entry = (key, id) := by
  simp [add]

theorem mem_ids_add {hkey : key ∉ d.keys} {hid : id ∉ d.ids} {other : Nat} :
    other ∈ (d.add key id hkey hid).ids ↔ other ∈ d.ids ∨ other = id := by
  simp [ids, add]

/-- The second directory has what the first one has and what is added, and no key besides. -/
structure Adds (d d' : Directory κ) (added : List (κ × Nat)) : Prop where
  kept : d.entries ⊆ d'.entries
  there : added ⊆ d'.entries
  keys : ∀ k ∈ d'.keys, k ∈ d.keys ∨ k ∈ added.map Prod.fst

theorem adds_nil (d : Directory κ) : d.Adds d [] where
  kept := List.Subset.refl _
  there := List.nil_subset _
  keys _ hk := .inl hk

theorem adds_self (h : (key, id) ∈ d.entries) : d.Adds d [(key, id)] where
  kept := List.Subset.refl _
  there := by simpa using h
  keys _ hk := .inl hk

theorem adds_add (hkey : key ∉ d.keys) (hid : id ∉ d.ids) :
    d.Adds (d.add key id hkey hid) [(key, id)] where
  kept := List.subset_append_left _ _
  there := List.subset_append_right _ _
  keys k hk := by simpa [Directory.keys, add] using hk

theorem Adds.entry (h : d.Adds d' [(key, id)]) : (key, id) ∈ d'.entries :=
  h.there (List.mem_singleton_self _)

theorem Adds.append {added added' : List (κ × Nat)} (h : d.Adds d' added)
    (h' : d'.Adds d'' added') : d.Adds d'' (added ++ added') where
  kept := List.Subset.trans h.kept h'.kept
  there := List.append_subset.mpr ⟨List.Subset.trans h.there h'.kept, h'.there⟩
  keys k hk := by
    rw [List.map_append, List.mem_append]
    rcases h'.keys k hk with hk | hk
    · rcases h.keys k hk with hk | hk
      · exact .inl hk
      · exact .inr (.inl hk)
    · exact .inr (.inr hk)

/-- Objects that were added under keys at the same places are the same exactly if their keys are. -/
theorem Adds.getElem?_eq_iff {keys : List κ} {ids : List Nat} (h : d.Adds d' (keys.zip ids))
    {i j : Nat} (hkey : keys[i]? = some key) (hid : ids[i]? = some id) (hkey' : keys[j]? = some key')
    (hid' : ids[j]? = some id') : id = id' ↔ key = key' := by
  have hentry : (key, id) ∈ keys.zip ids :=
    List.mem_of_getElem? (List.getElem?_zip_eq_some.mpr ⟨hkey, hid⟩)
  have hentry' : (key', id') ∈ keys.zip ids :=
    List.mem_of_getElem? (List.getElem?_zip_eq_some.mpr ⟨hkey', hid'⟩)
  exact id_eq_iff (h.there hentry) (h.there hentry')

/-! ### Directories that were empty at first -/

section Empty

variable {keys : List κ} {ids : List Nat}

theorem Adds.mem_keys_iff (h : ({} : Directory κ).Adds d (keys.zip ids))
    (hlength : keys.length = ids.length) : key ∈ d.keys ↔ key ∈ keys := by
  have hzip : (keys.zip ids).map Prod.fst = keys := List.map_fst_zip hlength.le
  constructor
  · intro hkey
    rcases h.keys key hkey with hold | hnew
    · simp [Directory.keys] at hold
    · rwa [hzip] at hnew
  · intro hkey
    rw [← hzip] at hkey
    obtain ⟨entry, hentry, rfl⟩ := List.mem_map.mp hkey
    exact key_mem (h.there hentry)

theorem Adds.mem_ids_iff (h : ({} : Directory κ).Adds d (keys.zip ids))
    (hlength : keys.length = ids.length) : id ∈ d.ids ↔ id ∈ ids := by
  constructor
  · intro hid
    obtain ⟨⟨key, _⟩, hentry, rfl⟩ := List.mem_map.mp hid
    obtain ⟨i, hi⟩ := List.mem_iff_getElem?.mp ((h.mem_keys_iff hlength).mp (key_mem hentry))
    obtain ⟨hlt, -⟩ := List.getElem?_eq_some_iff.mp hi
    have hother : ids[i]? = some ids[i] := List.getElem?_eq_getElem _
    have hadded : (key, ids[i]) ∈ d.entries :=
      h.there (List.mem_of_getElem? (List.getElem?_zip_eq_some.mpr ⟨hi, hother⟩))
    rw [← (id_eq_iff hadded hentry).mpr rfl]
    exact List.getElem_mem _
  · intro hid
    have hzip : (keys.zip ids).map Prod.snd = ids := List.map_snd_zip hlength.ge
    rw [← hzip] at hid
    obtain ⟨entry, hentry, rfl⟩ := List.mem_map.mp hid
    exact id_mem (h.there hentry)

/-- There are as many entries as keys were added, counting none of them twice. -/
theorem Adds.length_entries [DecidableEq κ] (h : ({} : Directory κ).Adds d (keys.zip ids))
    (hlength : keys.length = ids.length) : d.entries.length = keys.toFinset.card := by
  have hkeys : keys.toFinset = d.keys.toFinset := by
    ext key
    rw [List.mem_toFinset, List.mem_toFinset, h.mem_keys_iff hlength]
  have hcard : d.keys.toFinset.card = d.keys.length := List.toFinset_card_of_nodup d.keys_nodup
  rw [hkeys, hcard, Directory.keys, List.length_map]

end Empty

end Directory

end TelemetrySim.Live
