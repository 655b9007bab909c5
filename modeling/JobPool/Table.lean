/-!
Tables: values under distinct keys. The order of the entries is the order in which the keys came and
is not part of what a table means; the entries in the order of their keys are `sorted`.
-/

namespace JobPool

variable {κ α : Type} [DecidableEq κ]

/-- Replaces the value of a key, or adds the key at the end. -/
def putEntry (key : κ) (value : α) : List (κ × α) → List (κ × α)
  | [] => [(key, value)]
  | entry :: rest =>
    if entry.1 = key then (key, value) :: rest else entry :: putEntry key value rest

theorem mem_keys_putEntry {key k : κ} {value : α} {entries : List (κ × α)} :
    k ∈ (putEntry key value entries).map (·.1) ↔ k = key ∨ k ∈ entries.map (·.1) := by
  induction entries with
  | nil => simp [putEntry]
  | cons entry rest ih =>
    by_cases h : entry.1 = key
    · simp [putEntry, h]
    · have expand : (putEntry key value (entry :: rest)).map (·.1)
          = entry.1 :: (putEntry key value rest).map (·.1) := by simp [putEntry, h]
      rw [expand, List.mem_cons, ih, List.map_cons, List.mem_cons]
      exact or_left_comm

theorem nodup_keys_putEntry {key : κ} {value : α} {entries : List (κ × α)}
    (distinct : (entries.map (·.1)).Nodup) : ((putEntry key value entries).map (·.1)).Nodup := by
  induction entries with
  | nil => simp [putEntry]
  | cons entry rest ih =>
    rw [List.map_cons, List.nodup_cons] at distinct
    by_cases h : entry.1 = key
    · have expand : (putEntry key value (entry :: rest)).map (·.1)
          = key :: rest.map (·.1) := by simp [putEntry, h]
      rw [expand, List.nodup_cons, ← h]
      exact distinct
    · have expand : (putEntry key value (entry :: rest)).map (·.1)
          = entry.1 :: (putEntry key value rest).map (·.1) := by simp [putEntry, h]
      rw [expand, List.nodup_cons, mem_keys_putEntry]
      exact ⟨fun member => member.elim h distinct.1, ih distinct.2⟩

theorem lookup_entry (entry : κ × α) (rest : List (κ × α)) (k : κ) :
    (entry :: rest).lookup k = if k = entry.1 then some entry.2 else rest.lookup k := by
  obtain ⟨key, value⟩ := entry
  rw [List.lookup_cons]
  by_cases same : k = key
  · simp [same]
  · have differs : (k == key) = false := beq_eq_false_iff_ne.mpr same
    simp [same, differs]

theorem find?_key {key : κ} {entries : List (κ × α)} :
    (entries.find? fun entry => entry.1 = key) = (entries.lookup key).map (key, ·) := by
  induction entries with
  | nil => rfl
  | cons entry rest ih =>
    rw [List.find?_cons, lookup_entry, ih]
    by_cases same : key = entry.1
    · simp [same]
    · simp [same, Ne.symm same]

/-- What was put is found under its key, and nothing else changes. -/
theorem lookup_putEntry {key k : κ} {value : α} {entries : List (κ × α)} :
    (putEntry key value entries).lookup k = if k = key then some value else entries.lookup k := by
  induction entries with
  | nil => rw [putEntry, lookup_entry]
  | cons entry rest ih =>
    by_cases here : entry.1 = key
    · simp only [putEntry, here, ↓reduceIte, lookup_entry]
      by_cases same : k = key <;> simp [same]
    · simp only [putEntry, here, ↓reduceIte, lookup_entry, ih]
      by_cases same : k = entry.1
      · have other : ¬ k = key := fun equal => here (same.symm.trans equal)
        simp [same, here]
      · simp [same]

/-- Under distinct keys an entry is found where it is listed. -/
theorem lookup_eq_some_iff_mem {key : κ} {value : α} {entries : List (κ × α)}
    (distinct : (entries.map (·.1)).Nodup) : entries.lookup key = some value ↔ (key, value) ∈ entries := by
  induction entries with
  | nil => simp
  | cons entry rest ih =>
    rw [List.map_cons, List.nodup_cons] at distinct
    rw [lookup_entry, List.mem_cons, ← ih distinct.2]
    by_cases same : key = entry.1
    · have absent : rest.lookup key = none := by
        rw [List.lookup_eq_none_iff]
        intro other member
        have differs : ¬ key = other.1 := fun equal =>
          distinct.1 (List.mem_map.mpr ⟨other, member, equal.symm.trans same⟩)
        simpa using differs
      simp [same, Prod.ext_iff, same ▸ absent, eq_comm]
    · simp [same, Prod.ext_iff]

/-- The order of the entries does not matter. -/
theorem lookup_perm {entries other : List (κ × α)} (perm : entries.Perm other)
    (distinct : (entries.map (·.1)).Nodup) (key : κ) : entries.lookup key = other.lookup key := by
  refine Option.ext fun value => ?_
  rw [lookup_eq_some_iff_mem distinct, lookup_eq_some_iff_mem ((perm.map _).nodup_iff.mp distinct)]
  exact perm.mem_iff

/-- Values under distinct keys. -/
structure Table (κ α : Type) where
  entries : List (κ × α)
  distinct : (entries.map (·.1)).Nodup
  deriving DecidableEq

namespace Table

/-- No entries. -/
def empty : Table κ α := ⟨[], List.nodup_nil⟩

/-- The value under a key. -/
def get? (t : Table κ α) (key : κ) : Option α := t.entries.lookup key

/-- The table with this value under the key. -/
def put (t : Table κ α) (key : κ) (value : α) : Table κ α :=
  ⟨putEntry key value t.entries, nodup_keys_putEntry t.distinct⟩

/-- The table without the key. -/
def erase (t : Table κ α) (key : κ) : Table κ α :=
  ⟨t.entries.filter fun entry => entry.1 ≠ key,
    t.distinct.sublist (List.Sublist.map _ List.filter_sublist)⟩

/-- The table with a function of key and value applied to every value. -/
def mapValues {β : Type} (t : Table κ α) (f : κ → α → β) : Table κ β :=
  ⟨t.entries.map fun entry => (entry.1, f entry.1 entry.2), by
    simpa [List.map_map, Function.comp_def] using t.distinct⟩

theorem get?_put (t : Table κ α) (key k : κ) (value : α) :
    (t.put key value).get? k = if k = key then some value else t.get? k := lookup_putEntry

theorem get?_mapValues {β : Type} (t : Table κ α) (f : κ → α → β) (k : κ) :
    (t.mapValues f).get? k = (t.get? k).map (f k) := by
  obtain ⟨entries, distinct⟩ := t
  simp only [get?, mapValues]
  clear distinct
  induction entries with
  | nil => rfl
  | cons entry rest ih =>
    rw [List.map_cons, lookup_entry, lookup_entry, ih]
    by_cases same : k = entry.1 <;> simp [same]

theorem get?_erase (t : Table κ α) (key k : κ) :
    (t.erase key).get? k = if k = key then none else t.get? k := by
  obtain ⟨entries, distinct⟩ := t
  simp only [get?, erase]
  clear distinct
  induction entries with
  | nil => simp
  | cons entry rest ih =>
    by_cases here : entry.1 = key
    · rw [List.filter_cons_of_neg (by simp [here]), ih, lookup_entry]
      by_cases same : k = key <;> simp [same, here]
    · rw [List.filter_cons_of_pos (by simp [here]), lookup_entry, lookup_entry, ih]
      by_cases same : k = entry.1
      · simp [same, here]
      · simp [same]

/-- The entries in the order of their keys. -/
def sorted (le : κ → κ → Bool) (t : Table κ α) : List (κ × α) :=
  t.entries.mergeSort fun a b => le a.1 b.1

theorem lookup_sorted (t : Table κ α) (le : κ → κ → Bool) (k : κ) :
    (t.sorted le).lookup k = t.get? k :=
  (lookup_perm (List.mergeSort_perm _ _).symm t.distinct k).symm

theorem mem_sorted {t : Table κ α} {le : κ → κ → Bool} {key : κ} {value : α} :
    (key, value) ∈ t.sorted le ↔ t.get? key = some value := by
  rw [get?, lookup_eq_some_iff_mem t.distinct]
  exact (List.mergeSort_perm _ _).mem_iff

omit [DecidableEq κ] in
theorem pairwise_sorted {le : κ → κ → Bool} (total : ∀ a b, (le a b || le b a) = true)
    (trans : ∀ {a b c}, le a b = true → le b c = true → le a c = true) (t : Table κ α) :
    (t.sorted le).Pairwise fun a b => le a.1 b.1 = true := by
  refine List.pairwise_mergeSort ?_ ?_ t.entries
  · exact fun _ _ _ => trans
  · exact fun a b => total a.1 b.1

end Table

/-- Strings are ordered by their characters. -/
def textLe (a b : String) : Bool := decide (a ≤ b)

/-- Lists of strings are ordered by the first string that differs. -/
def textsLe : List String → List String → Bool
  | [], _ => true
  | _ :: _, [] => false
  | a :: as, b :: bs => if a = b then textsLe as bs else textLe a b

end JobPool
