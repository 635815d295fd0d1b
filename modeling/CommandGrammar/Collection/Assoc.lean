/-!
# Keyed lists

A map from names to values, kept as a list of pairs. `put` replaces the value of a name that is
there already, so a list built by `put` alone holds each name once; `List.lookup` reads it.
-/

set_option autoImplicit false

namespace CommandGrammar.Assoc

variable {α : Type}

/-- Gives a name a value, in the place of the value it had. -/
def put (name : String) (value : α) : List (String × α) → List (String × α)
  | [] => [(name, value)]
  | entry :: rest =>
    if entry.1 = name then (name, value) :: rest else entry :: put name value rest

/-- The entries of all names but one. -/
def erase (name : String) (entries : List (String × α)) : List (String × α) :=
  entries.filter fun entry => entry.1 != name

/-- The names, in the order of their entries. -/
def names (entries : List (String × α)) : List String :=
  entries.map Prod.fst

/-- An entry is read off the front when it has the name, and looked for behind it otherwise. -/
theorem lookup_cons_eq (name other : String) (value : α) (entries : List (String × α)) :
    ((name, value) :: entries).lookup other
      = if other = name then some value else entries.lookup other := by
  by_cases h : other = name
  · simp [h]
  · have hb : (other == name) = false := by simpa using h
    simp [List.lookup_cons, hb, h]

/-- A name that was given a value has that value, and no other name is touched. -/
theorem lookup_put (name other : String) (value : α) (entries : List (String × α)) :
    (put name value entries).lookup other
      = if other = name then some value else entries.lookup other := by
  induction entries with
  | nil => rw [put, lookup_cons_eq]
  | cons entry rest ih =>
    obtain ⟨key, held⟩ := entry
    unfold put
    split
    next same =>
      cases same
      rw [lookup_cons_eq, lookup_cons_eq]
      split <;> rfl
    next different =>
      rw [lookup_cons_eq, lookup_cons_eq, ih]
      split
      next same => rw [if_neg (same ▸ different)]
      next => rfl

/-- The names are those that have a value. -/
theorem mem_names_iff {name : String} {entries : List (String × α)} :
    name ∈ names entries ↔ ∃ value, entries.lookup name = some value := by
  rw [← Option.isSome_iff_exists]
  induction entries with
  | nil => simp [names]
  | cons entry rest ih =>
    obtain ⟨key, held⟩ := entry
    rw [names, List.map_cons, List.mem_cons, lookup_cons_eq]
    by_cases same : name = key
    · simp [same]
    · rw [if_neg same, ← ih, names]
      simp [same]

/-- A name that is given a value is not listed twice. -/
theorem nodup_names_put {entries : List (String × α)} (distinct : (names entries).Nodup)
    (name : String) (value : α) : (names (put name value entries)).Nodup := by
  induction entries with
  | nil => exact List.pairwise_singleton _ name
  | cons entry rest ih =>
    obtain ⟨fresh, behind⟩ := List.nodup_cons.mp distinct
    unfold put
    split
    next same => exact List.nodup_cons.mpr ⟨same ▸ fresh, behind⟩
    next other =>
      refine List.nodup_cons.mpr ⟨fun member => ?_, ih behind⟩
      obtain ⟨held, found⟩ := mem_names_iff.mp member
      rw [lookup_put, if_neg other] at found
      exact fresh (mem_names_iff.mpr ⟨held, found⟩)

/-- An erased name has no value, and no other name is touched. -/
theorem lookup_erase (name other : String) (entries : List (String × α)) :
    (erase name entries).lookup other =
      if other = name then none else entries.lookup other := by
  induction entries with
  | nil => simp [erase]
  | cons entry rest ih =>
    obtain ⟨key, value⟩ := entry
    unfold erase at ih ⊢
    rw [lookup_cons_eq]
    by_cases same : key = name
    · rw [List.filter_cons_of_neg (by simp [same]), ih, same]
      by_cases own : other = name
      · rw [if_pos own, if_pos own]
      · rw [if_neg own, if_neg own, if_neg own]
    · rw [List.filter_cons_of_pos (by simp [same]), lookup_cons_eq, ih]
      by_cases found : other = key
      · rw [if_pos found, if_neg (found ▸ same), if_pos found]
      · rw [if_neg found, if_neg found]

/-- A name that had no value and was given one is back without a value once it is erased. -/
theorem erase_put {name : String} {value : α} {entries : List (String × α)}
    (absent : entries.lookup name = none) : erase name (put name value entries) = entries := by
  induction entries with
  | nil => simp [put, erase]
  | cons entry rest ih =>
    obtain ⟨key, held⟩ := entry
    rw [lookup_cons_eq] at absent
    split at absent
    · cases absent
    next other =>
      have kept : erase name (put name value rest) = rest := ih absent
      unfold erase at kept ⊢
      rw [put, if_neg (Ne.symm other), List.filter_cons_of_pos (by simpa using Ne.symm other), kept]

/-- A name that had a value and was given another one has the first again once it is put back. -/
theorem put_put {name : String} {value held : α} {entries : List (String × α)}
    (present : entries.lookup name = some held) : put name held (put name value entries) = entries := by
  induction entries with
  | nil => cases present
  | cons entry rest ih =>
    obtain ⟨key, first⟩ := entry
    rw [lookup_cons_eq] at present
    split at present
    next same =>
      cases present
      cases same
      simp [put]
    next other =>
      rw [put, if_neg (Ne.symm other), put, if_neg (Ne.symm other), ih present]

end CommandGrammar.Assoc
