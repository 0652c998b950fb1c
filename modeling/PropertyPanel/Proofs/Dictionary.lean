/-
This file proves what a look-up finds after a change to named entries.
-/

import PropertyPanel.Dictionary

namespace PropertyPanel

namespace Entries

variable {Name Value : Type} [DecidableEq Name]

/-- A look-up tries the first entry before the others. -/
theorem lookup_entry (name : Name) (entry : Name × Value) (rest : List (Name × Value)) :
    (entry :: rest).lookup name = if name = entry.1 then some entry.2 else rest.lookup name := by
  obtain ⟨first, value⟩ := entry
  by_cases same : name = first
  · simp [same]
  · have test : (name == first) = false := beq_eq_false_iff_ne.mpr same
    simp [List.lookup_cons, same, test]

@[simp] theorem lookup_put (name other : Name) (value : Value) (entries : List (Name × Value)) :
    (put name value entries).lookup other =
      if other = name then some value else entries.lookup other := by
  induction entries with
  | nil => simp [put, lookup_entry]
  | cons entry rest ih =>
      by_cases same : entry.1 = name
      · by_cases wanted : other = name <;> simp [put, lookup_entry, same, wanted]
      · by_cases wanted : other = name
        · subst wanted
          simpa [put, lookup_entry, same, Ne.symm same] using ih
        · simp [put, lookup_entry, same, wanted, ih]

/-- A name without an entry is not found. -/
theorem lookup_fresh {name : Name} {entries : List (Name × Value)}
    (fresh : name ∉ entries.map Prod.fst) : entries.lookup name = none := by
  rw [List.lookup_eq_none_iff]
  intro entry listed
  exact bne_iff_ne.mpr fun same => fresh (same ▸ List.mem_map_of_mem listed)

/-- A put for a known name changes no aspect in which the values agree. -/
theorem map_put {Aspect : Type} (aspect : Name × Value → Aspect) {name : Name}
    {before value : Value} {entries : List (Name × Value)}
    (known : entries.lookup name = some before)
    (same : aspect (name, value) = aspect (name, before)) :
    (put name value entries).map aspect = entries.map aspect := by
  induction entries with
  | nil => simp at known
  | cons entry rest ih =>
      rw [lookup_entry] at known
      by_cases first : name = entry.1
      · have stored : entry.2 = before := by simpa [first] using known
        have whole : entry = (name, before) := Prod.ext first.symm stored
        simp [put, whole, same]
      · rw [if_neg first] at known
        simp [put, Ne.symm first, ih known]

/-- A put of the value that a name already has changes nothing. -/
theorem put_same {name : Name} {value : Value} {entries : List (Name × Value)}
    (known : entries.lookup name = some value) : put name value entries = entries := by
  simpa using map_put id known rfl

/-- A put of a new name adds an entry at the end. -/
theorem put_fresh {name : Name} {entries : List (Name × Value)}
    (fresh : name ∉ entries.map Prod.fst) (value : Value) :
    put name value entries = entries ++ [(name, value)] := by
  induction entries with
  | nil => rfl
  | cons entry rest ih =>
      rw [List.map_cons, List.mem_cons, not_or] at fresh
      rw [put, if_neg (Ne.symm fresh.1), ih fresh.2, List.cons_append]

/-- Entries with names of their own are put one behind the other. -/
theorem foldl_put {known entries : List (Name × Value)}
    (distinct : ((known ++ entries).map Prod.fst).Nodup) :
    entries.foldl (fun known entry => put entry.1 entry.2 known) known = known ++ entries := by
  induction entries generalizing known with
  | nil => simp
  | cons entry rest ih =>
      have apart := distinct
      rw [List.map_append, List.map_cons, List.nodup_append] at apart
      have fresh : entry.1 ∉ known.map Prod.fst := fun listed =>
        apart.2.2 entry.1 listed entry.1 List.mem_cons_self rfl
      rw [List.foldl_cons, put_fresh fresh, ih (by simpa using distinct)]
      simp

/-- A list of entries with distinct names is already gathered. -/
theorem gather_distinct {entries : List (Name × Value)}
    (distinct : (entries.map Prod.fst).Nodup) : gather entries = entries := by
  rw [gather, foldl_put (by simpa using distinct), List.nil_append]

/-- The entries after a put are the new one and old ones. -/
theorem mem_put {name : Name} {value : Value} {entries : List (Name × Value)}
    {entry : Name × Value} (listed : entry ∈ put name value entries) :
    entry = (name, value) ∨ entry ∈ entries := by
  induction entries with
  | nil => exact .inl (List.mem_singleton.mp listed)
  | cons first rest ih =>
      rw [put] at listed
      split at listed
      · exact (List.mem_cons.mp listed).imp_right (List.mem_cons_of_mem _)
      · cases List.mem_cons.mp listed with
        | inl same => exact .inr (same ▸ List.mem_cons_self)
        | inr later => exact (ih later).imp_right (List.mem_cons_of_mem _)

theorem mem_foldl_put {known entries : List (Name × Value)} {entry : Name × Value}
    (listed : entry ∈ entries.foldl (fun known entry => put entry.1 entry.2 known) known) :
    entry ∈ known ∨ entry ∈ entries := by
  induction entries generalizing known with
  | nil => exact .inl listed
  | cons first rest ih =>
      cases ih listed with
      | inl put =>
          cases mem_put put with
          | inl new => exact .inr (new ▸ List.mem_cons_self)
          | inr old => exact .inl old
      | inr later => exact .inr (List.mem_cons_of_mem _ later)

theorem distinct_foldl_put {known : List (Name × Value)} (distinct : (known.map Prod.fst).Nodup)
    (entries : List (Name × Value)) :
    ((entries.foldl (fun known entry => put entry.1 entry.2 known) known).map
      Prod.fst).Nodup := by
  induction entries generalizing known with
  | nil => exact distinct
  | cons first rest ih => exact ih (putDistinct first.1 first.2 distinct)

/-- The second of two puts decides the value. -/
@[simp] theorem put_put (name : Name) (first second : Value) (entries : List (Name × Value)) :
    put name second (put name first entries) = put name second entries := by
  induction entries with
  | nil => simp [put]
  | cons entry rest ih =>
      by_cases same : entry.1 = name
      · simp [put, same]
      · simp [put, same, ih]

/-- An erasure takes back a put of its name. -/
@[simp] theorem erase_put (name : Name) (value : Value) (entries : List (Name × Value)) :
    erase name (put name value entries) = erase name entries := by
  induction entries with
  | nil => simp [put, erase]
  | cons entry rest ih =>
      rw [erase] at ih ⊢
      by_cases same : entry.1 = name
      · simp [put, erase, same]
      · simpa [put, erase, same] using ih

/-- An erasure of a name without an entry changes nothing. -/
theorem erase_absent {name : Name} {entries : List (Name × Value)}
    (absent : entries.lookup name = none) : erase name entries = entries := by
  rw [List.lookup_eq_none_iff] at absent
  rw [erase, List.filter_eq_self]
  intro entry listed
  have different := bne_iff_ne.mp (absent entry listed)
  simp [Ne.symm different]

@[simp] theorem lookup_erase (name other : Name) (entries : List (Name × Value)) :
    (erase name entries).lookup other = if other = name then none else entries.lookup other := by
  induction entries with
  | nil => simp [erase]
  | cons entry rest ih =>
      rw [erase] at ih ⊢
      by_cases dropped : entry.1 = name
      · by_cases wanted : other = name
        · simpa [dropped, wanted] using ih
        · simpa [dropped, wanted, lookup_entry] using ih
      · by_cases wanted : other = name
        · simpa [dropped, wanted, lookup_entry, Ne.symm dropped] using ih
        · simpa [dropped, wanted, lookup_entry] using
            congrArg (fun found => if other = entry.1 then some entry.2 else found) ih

end Entries

namespace Dictionary

variable {Name Value : Type} [DecidableEq Name]

@[simp] theorem find?_insert (dictionary : Dictionary Name Value) (name other : Name)
    (value : Value) :
    (dictionary.insert name value).find? other =
      if other = name then some value else dictionary.find? other :=
  Entries.lookup_put name other value dictionary.entries

/-- An entry is found under its name. -/
theorem find?_eq_some {dictionary : Dictionary Name Value} {name : Name} {value : Value} :
    dictionary.find? name = some value ↔ (name, value) ∈ dictionary.entries := by
  cases dictionary with
  | mk entries distinct =>
      change entries.lookup name = some value ↔ (name, value) ∈ entries
      induction entries with
      | nil => simp
      | cons entry rest ih =>
          rw [List.map_cons, List.nodup_cons] at distinct
          obtain ⟨fresh, later⟩ := distinct
          rw [Entries.lookup_entry, List.mem_cons, ← ih later]
          split
          · rename_i same
            have missing : rest.lookup name ≠ some value := by
              intro known
              have listed := (ih later).mp known
              exact fresh (same ▸ List.mem_map_of_mem listed)
            rw [iff_false_intro missing, or_false, Prod.ext_iff, Option.some_inj]
            exact ⟨fun held => ⟨same, held.symm⟩, fun held => held.2.symm⟩
          · rename_i different
            simp [Prod.ext_iff, different]

theorem mem_values {dictionary : Dictionary Name Value} {name : Name} {value : Value}
    (known : dictionary.find? name = some value) : value ∈ dictionary.values :=
  List.mem_map_of_mem (find?_eq_some.mp known)

theorem exists_find?_of_mem_values {dictionary : Dictionary Name Value} {value : Value}
    (held : value ∈ dictionary.values) : ∃ name, dictionary.find? name = some value := by
  obtain ⟨entry, listed, same⟩ := List.mem_map.mp held
  exact ⟨entry.1, find?_eq_some.mpr (same ▸ listed)⟩

/-- The dictionary of a list has the names that are in the list. -/
theorem isSome_find?_ofList (entries : List (Name × Value)) (name : Name) :
    ((ofList entries).find? name).isSome ↔ name ∈ entries.map Prod.fst := by
  have fold (known : Dictionary Name Value) :
      ((entries.foldl (fun known entry => known.insert entry.1 entry.2) known).find? name).isSome ↔
        (known.find? name).isSome ∨ name ∈ entries.map Prod.fst := by
    induction entries generalizing known with
    | nil => simp
    | cons entry rest ih =>
        rw [List.foldl_cons, ih, find?_insert, List.map_cons, List.mem_cons]
        by_cases same : name = entry.1
        · simp [same]
        · simp [same]
  rw [ofList, fold]
  simp [empty, find?]

/-- The dictionary of a list has no entries but those of the list. -/
theorem mem_ofList {entries : List (Name × Value)} {entry : Name × Value}
    (listed : entry ∈ (ofList entries).entries) : entry ∈ entries := by
  have fold (entries : List (Name × Value)) (known : Dictionary Name Value) :
      (entries.foldl (fun known entry => known.insert entry.1 entry.2) known).entries =
        entries.foldl (fun known entry => Entries.put entry.1 entry.2 known) known.entries := by
    induction entries generalizing known with
    | nil => rfl
    | cons first rest ih => exact ih _
  rw [ofList, fold] at listed
  exact (Entries.mem_foldl_put listed).resolve_left List.not_mem_nil

/-- An insertion of the value that a name already has changes nothing. -/
theorem insert_same {dictionary : Dictionary Name Value} {name : Name} {value : Value}
    (known : dictionary.find? name = some value) : dictionary.insert name value = dictionary := by
  cases dictionary with
  | mk entries distinct =>
      simp only [insert, mk.injEq]
      exact Entries.put_same known

end Dictionary

end PropertyPanel
