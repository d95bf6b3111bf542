/-!
# Dictionaries

Named values, kept in ascending order of their names.  Strings are ordered by
code points, which is also the order of their UTF-8 octets.  Of two values with
one name the later replaces the earlier.

Main results:

* `lookup_insert_self`, `lookup_insert_of_ne`: what an insertion changes;
* `lookup_ofList`: the last of equal names counts.
-/

namespace WebAuth.Dictionary

variable {α : Type}

/-- Put a value under a name. -/
def insert (name : String) (value : α) : List (String × α) → List (String × α)
  | [] => [(name, value)]
  | (other, old) :: rest =>
      if name = other then (name, value) :: rest
      else if name < other then (name, value) :: (other, old) :: rest
      else (other, old) :: insert name value rest

/-- The dictionary of some named values, later ones replacing earlier ones. -/
def ofList (entries : List (String × α)) : List (String × α) :=
  entries.foldl (fun dict entry => insert entry.1 entry.2 dict) []

/-- The inserted name is found with its new value. -/
theorem lookup_insert_self (name : String) (value : α) (dict : List (String × α)) :
    (insert name value dict).lookup name = some value := by
  induction dict with
  | nil => simp [insert]
  | cons entry rest ih =>
      obtain ⟨key, old⟩ := entry
      by_cases heq : name = key
      · simp [insert, heq]
      · by_cases hlt : name < key
        · simp [insert, heq, hlt]
        · have hne : (name == key) = false := by simpa using heq
          simp [insert, heq, hlt, List.lookup_cons, hne, ih]

/-- Every other name is found as before. -/
theorem lookup_insert_of_ne {name other : String} (h : other ≠ name) (value : α)
    (dict : List (String × α)) :
    (insert name value dict).lookup other = dict.lookup other := by
  have hne : (other == name) = false := by simpa using h
  induction dict with
  | nil => simp [insert, List.lookup_cons, hne]
  | cons entry rest ih =>
      obtain ⟨key, old⟩ := entry
      by_cases heq : name = key
      · subst heq
        simp [insert, List.lookup_cons, hne]
      · by_cases hlt : name < key
        · simp [insert, heq, hlt, List.lookup_cons, hne]
        · simp [insert, heq, hlt, List.lookup_cons, ih]

/-- The dictionary after one more entry. -/
theorem ofList_append_singleton (entries : List (String × α)) (name : String) (value : α) :
    ofList (entries ++ [(name, value)]) = insert name value (ofList entries) := by
  simp [ofList]

/-- What a dictionary has under a name is the last that was written under it. -/
theorem lookup_ofList (entries : List (String × α)) (name : String) :
    (ofList entries).lookup name = entries.reverse.lookup name := by
  rw [← entries.reverse_reverse]
  generalize entries.reverse = latest
  induction latest with
  | nil => rfl
  | cons entry rest ih =>
      obtain ⟨key, value⟩ := entry
      rw [List.reverse_cons, ofList_append_singleton, ← List.reverse_cons, List.reverse_reverse]
      rw [List.reverse_reverse] at ih
      by_cases heq : name = key
      · subst heq
        rw [lookup_insert_self]
        simp
      · have hne : (name == key) = false := by simpa using heq
        rw [lookup_insert_of_ne heq, ih, List.lookup_cons, hne]

/-- Nothing is found under a name that does not occur. -/
theorem lookup_eq_none_iff_not_mem (entries : List (String × α)) (name : String) :
    entries.lookup name = none ↔ name ∉ entries.map Prod.fst := by
  rw [List.lookup_eq_none_iff]
  constructor
  · intro h hmem
    obtain ⟨entry, hentry, rfl⟩ := List.mem_map.mp hmem
    simpa using h entry hentry
  · intro h entry hentry
    simp only [bne_iff_ne, ne_eq]
    rintro rfl
    exact h (List.mem_map_of_mem hentry)

/-- A name that comes only once is found with any value that stands under it. -/
theorem lookup_eq_some_of_mem {fields : List (String × α)} {name : String} {value : α}
    (honce : (fields.map Prod.fst).count name ≤ 1) (h : (name, value) ∈ fields) :
    fields.lookup name = some value := by
  induction fields with
  | nil => cases h
  | cons field rest ih =>
      obtain ⟨key, first⟩ := field
      rw [List.map_cons, List.count_cons] at honce
      rcases List.mem_cons.mp h with h | h
      · cases h
        simp
      · have hmem : name ∈ rest.map Prod.fst := List.mem_map_of_mem h
        have hpositive : 0 < (rest.map Prod.fst).count name := List.count_pos_iff.mpr hmem
        by_cases heq : key = name
        · simp only [heq, beq_self_eq_true, if_true] at honce
          omega
        · have hne : (name == key) = false := by simpa using fun hsame : name = key => heq hsame.symm
          rw [List.lookup_cons, hne]
          exact ih (by omega) h

/-- A dictionary has the names that were written. -/
theorem mem_names_ofList (entries : List (String × α)) (name : String) :
    name ∈ (ofList entries).map Prod.fst ↔ name ∈ entries.map Prod.fst := by
  rw [← Decidable.not_iff_not, ← lookup_eq_none_iff_not_mem, lookup_ofList, lookup_eq_none_iff_not_mem,
    List.map_reverse, List.mem_reverse]

/-- An insertion adds no other entry. -/
theorem mem_of_mem_insert {name : String} {value : α} {dict : List (String × α)}
    {entry : String × α} (h : entry ∈ insert name value dict) :
    entry = (name, value) ∨ entry ∈ dict := by
  induction dict with
  | nil => simpa [insert] using h
  | cons first rest ih =>
      obtain ⟨key, old⟩ := first
      unfold insert at h
      split at h
      · rcases List.mem_cons.mp h with h | h
        · exact Or.inl h
        · exact Or.inr (List.mem_cons_of_mem _ h)
      · split at h
        · rcases List.mem_cons.mp h with h | h
          · exact Or.inl h
          · exact Or.inr h
        · rcases List.mem_cons.mp h with h | h
          · exact Or.inr (h ▸ List.mem_cons_self)
          · rcases ih h with h | h
            · exact Or.inl h
            · exact Or.inr (List.mem_cons_of_mem _ h)

/-- A dictionary has only entries that were written. -/
theorem mem_of_mem_ofList {entries : List (String × α)} {entry : String × α}
    (h : entry ∈ ofList entries) : entry ∈ entries := by
  rw [← entries.reverse_reverse] at h ⊢
  generalize entries.reverse = latest at h
  induction latest with
  | nil => simp [ofList] at h
  | cons first rest ih =>
      obtain ⟨key, value⟩ := first
      rw [List.reverse_cons, ofList_append_singleton] at h
      rw [List.reverse_cons]
      rcases mem_of_mem_insert h with h | h
      · exact List.mem_append_right _ (List.mem_singleton.mpr h)
      · exact List.mem_append_left _ (ih h)

end WebAuth.Dictionary
