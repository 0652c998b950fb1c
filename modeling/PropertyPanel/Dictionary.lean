/-
This file defines named entries that keep the order in which the names were first used.
-/

namespace PropertyPanel

namespace Entries

variable {Name Value : Type} [DecidableEq Name]

/-- A put replaces the value of a known name in place and adds a new name at the end. -/
def put (name : Name) (value : Value) : List (Name × Value) → List (Name × Value)
  | [] => [(name, value)]
  | entry :: rest =>
      if entry.1 = name then (name, value) :: rest else entry :: put name value rest

/-- An erasure drops a name and keeps the order of the others. -/
def erase (name : Name) (entries : List (Name × Value)) : List (Name × Value) :=
  entries.filter fun entry => entry.1 ≠ name

/-- The gathered list keeps the last value of each name at the place of its first use. -/
def gather (entries : List (Name × Value)) : List (Name × Value) :=
  entries.foldl (fun known entry => put entry.1 entry.2 known) []

theorem namesPut (name : Name) (value : Value) (entries : List (Name × Value)) :
    (put name value entries).map Prod.fst =
      if name ∈ entries.map Prod.fst then entries.map Prod.fst
      else entries.map Prod.fst ++ [name] := by
  induction entries with
  | nil => simp [put]
  | cons entry rest ih =>
      by_cases same : entry.1 = name
      · simp [put, same]
      · have other : ¬ name = entry.1 := fun h => same h.symm
        by_cases known : name ∈ rest.map Prod.fst
        · simp [put, same, ih, known]
        · simp [put, same, other, ih, known]

theorem putDistinct (name : Name) (value : Value) {entries : List (Name × Value)}
    (distinct : (entries.map Prod.fst).Nodup) :
    ((put name value entries).map Prod.fst).Nodup := by
  rw [namesPut]
  split
  · exact distinct
  · rename_i fresh
    rw [List.nodup_append]
    refine ⟨distinct, by simp, ?_⟩
    intro first firstKnown second secondNew
    simp only [List.mem_singleton] at secondNew
    exact fun equal => fresh (secondNew ▸ equal ▸ firstKnown)

omit [DecidableEq Name] in
theorem filterDistinct (keep : Name × Value → Bool) {entries : List (Name × Value)}
    (distinct : (entries.map Prod.fst).Nodup) :
    ((entries.filter keep).map Prod.fst).Nodup :=
  distinct.sublist (List.filter_sublist.map Prod.fst)

end Entries

/-- A dictionary holds one value for each of its names. -/
structure Dictionary (Name Value : Type) where
  entries : List (Name × Value)
  distinct : (entries.map Prod.fst).Nodup
  deriving DecidableEq

namespace Dictionary

variable {Name Value : Type} [DecidableEq Name]

def empty : Dictionary Name Value := ⟨[], List.nodup_nil⟩

instance : Inhabited (Dictionary Name Value) := ⟨empty⟩

def insert (dictionary : Dictionary Name Value) (name : Name) (value : Value) :
    Dictionary Name Value :=
  ⟨Entries.put name value dictionary.entries,
    Entries.putDistinct name value dictionary.distinct⟩

/-- The dictionary of a list keeps the last value of each name at the place of its first use. -/
def ofList (entries : List (Name × Value)) : Dictionary Name Value :=
  entries.foldl (fun known entry => known.insert entry.1 entry.2) empty

def extend (dictionary other : Dictionary Name Value) : Dictionary Name Value :=
  other.entries.foldl (fun known entry => known.insert entry.1 entry.2) dictionary

/-- The entries that pass a test stay in their order. -/
def filter (dictionary : Dictionary Name Value) (keep : Name × Value → Bool) :
    Dictionary Name Value :=
  ⟨dictionary.entries.filter keep, Entries.filterDistinct keep dictionary.distinct⟩

def find? (dictionary : Dictionary Name Value) (name : Name) : Option Value :=
  dictionary.entries.lookup name

def contains (dictionary : Dictionary Name Value) (name : Name) : Bool :=
  (dictionary.find? name).isSome

def names (dictionary : Dictionary Name Value) : List Name :=
  dictionary.entries.map Prod.fst

def values (dictionary : Dictionary Name Value) : List Value :=
  dictionary.entries.map Prod.snd

def size (dictionary : Dictionary Name Value) : Nat :=
  dictionary.entries.length

def isEmpty (dictionary : Dictionary Name Value) : Bool :=
  dictionary.entries.isEmpty

end Dictionary

end PropertyPanel
