/-!
Tables as lists of pairs, in the order in which keys were first inserted. Inserting under a key that
is there replaces its value in place.
-/

set_option autoImplicit false
set_option relaxedAutoImplicit false

namespace TelemetrySim.Assoc

variable {α : Type}

def insert (key : String) (a : α) : List (String × α) → List (String × α)
  | [] => [(key, a)]
  | (k, b) :: rest => if k = key then (k, a) :: rest else (k, b) :: insert key a rest

def keys (l : List (String × α)) : List String := l.map (·.1)

@[simp] theorem lookup_insert_self (key : String) (a : α) (l : List (String × α)) :
    (insert key a l).lookup key = some a := by
  induction l with
  | nil => simp [insert]
  | cons p rest ih =>
    obtain ⟨k, b⟩ := p
    by_cases h : k = key
    · simp [insert, h]
    · have hk : (key == k) = false := by simpa using Ne.symm h
      simp [insert, h, hk, List.lookup_cons, ih]

theorem lookup_insert_of_ne {key other : String} (h : other ≠ key) (a : α)
    (l : List (String × α)) : (insert key a l).lookup other = l.lookup other := by
  have ho : (other == key) = false := by simpa using h
  induction l with
  | nil => simp [insert, List.lookup_cons, ho]
  | cons p rest ih =>
    obtain ⟨k, b⟩ := p
    by_cases hk : k = key
    · subst hk
      simp [insert, List.lookup_cons, ho]
    · simp only [insert, hk, if_false, List.lookup_cons, ih]

theorem keys_insert (key : String) (a : α) (l : List (String × α)) :
    keys (insert key a l) = if key ∈ keys l then keys l else keys l ++ [key] := by
  induction l with
  | nil => simp [insert, keys]
  | cons p rest ih =>
    obtain ⟨k, b⟩ := p
    by_cases h : k = key
    · simp [insert, keys, h]
    · have h' : key ≠ k := Ne.symm h
      simp only [keys] at ih
      simp only [insert, h, if_false, keys, List.map_cons, ih, List.mem_cons, h', false_or]
      split <;> simp_all

/-- A new key goes to the end. -/
theorem insert_of_notMem {key : String} {l : List (String × α)} (h : key ∉ keys l) (a : α) :
    insert key a l = l ++ [(key, a)] := by
  induction l with
  | nil => rfl
  | cons p rest ih =>
    obtain ⟨k, b⟩ := p
    obtain ⟨hk, hrest⟩ : key ≠ k ∧ key ∉ keys rest := by simpa [keys] using h
    simp [insert, Ne.symm hk, ih hrest]

theorem mem_keys_iff {key : String} {l : List (String × α)} :
    key ∈ keys l ↔ ∃ a, l.lookup key = some a := by
  induction l with
  | nil => simp [keys]
  | cons p rest ih =>
    obtain ⟨k, b⟩ := p
    by_cases h : key = k
    · simp [keys, h]
    · have hk : (key == k) = false := by simpa using h
      simp only [keys] at ih
      simp [keys, List.lookup_cons, h, hk, ih]

theorem mem_of_lookup {key : String} {a : α} {l : List (String × α)}
    (h : l.lookup key = some a) : (key, a) ∈ l := by
  obtain ⟨before, after, rfl, -⟩ := List.lookup_eq_some_iff.mp h
  simp

/-- An entry at the end is found unless the key occurs before. -/
theorem lookup_concat_eq_some_iff {key other : String} {a b : α} {l : List (String × α)} :
    (l ++ [(key, a)]).lookup other = some b ↔
      l.lookup other = some b ∨ l.lookup other = none ∧ other = key ∧ a = b := by
  rw [List.lookup_append, Option.or_eq_some_iff]
  by_cases h : other = key
  · simp [h]
  · have hne : (other == key) = false := by simpa using h
    simp [List.lookup_cons, h, hne]

/-- Inserts into a table that is sorted by key. -/
def place (key : String) (a : α) : List (String × α) → List (String × α)
  | [] => [(key, a)]
  | (k, b) :: rest =>
    if key < k then (key, a) :: (k, b) :: rest
    else if key = k then (key, a) :: rest
    else (k, b) :: place key a rest

/-- The table sorted by key. Of a repeated key the last value stays. -/
def sorted (l : List (String × α)) : List (String × α) :=
  l.foldl (fun acc (k, a) ↦ place k a acc) []

/-- Inserts into a sorted table unless the key is there. -/
def placeDefault (key : String) (a : α) (l : List (String × α)) : List (String × α) :=
  if (l.lookup key).isSome then l else place key a l

end TelemetrySim.Assoc
