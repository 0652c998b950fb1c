/-
This file defines finite sets of names, which are listed in ascending order.
-/

namespace PropertyPanel

structure NameSet where
  names : List String
  ascending : names.Pairwise (· < ·)
  deriving DecidableEq

namespace NameSet

def empty : NameSet := ⟨[], .nil⟩

instance : Inhabited NameSet := ⟨empty⟩

/-- A name that is already listed is not listed again. -/
def insertInto (name : String) : List String → List String
  | [] => [name]
  | first :: rest =>
      if name < first then name :: first :: rest
      else if name = first then first :: rest
      else first :: insertInto name rest

theorem memInsertInto (name other : String) (names : List String) :
    other ∈ insertInto name names ↔ other = name ∨ other ∈ names := by
  induction names with
  | nil => simp [insertInto]
  | cons first rest ih =>
      rw [insertInto]
      split
      · simp
      · split
        · rename_i same
          simp [same]
        · simp only [List.mem_cons, ih]
          exact or_left_comm

theorem insertIntoAscending (name : String) {names : List String}
    (ascending : names.Pairwise (· < ·)) : (insertInto name names).Pairwise (· < ·) := by
  induction names with
  | nil => simp [insertInto]
  | cons first rest ih =>
      obtain ⟨least, restAscending⟩ := List.pairwise_cons.mp ascending
      rw [insertInto]
      split
      · rename_i before
        refine List.pairwise_cons.mpr ⟨?_, ascending⟩
        intro other known
        rcases List.mem_cons.mp known with same | later
        · exact same ▸ before
        · exact String.lt_trans before (least other later)
      · split
        · exact ascending
        · rename_i notBefore different
          refine List.pairwise_cons.mpr ⟨?_, ih restAscending⟩
          intro other known
          rcases (memInsertInto name other rest).mp known with same | later
          · subst same
            have after : first ≤ other := String.not_lt.mp notBefore
            exact Std.lt_of_le_of_ne after fun equal => different equal.symm
          · exact least other later

def insert (set : NameSet) (name : String) : NameSet :=
  ⟨insertInto name set.names, insertIntoAscending name set.ascending⟩

def ofList (names : List String) : NameSet := names.foldl insert empty

/-- The names of a list are in its set. -/
theorem mem_ofList {name : String} {names : List String} :
    name ∈ (ofList names).names ↔ name ∈ names := by
  have fold (known : NameSet) : name ∈ (names.foldl insert known).names ↔
      name ∈ known.names ∨ name ∈ names := by
    induction names generalizing known with
    | nil => simp
    | cons first rest ih =>
        rw [List.foldl_cons, ih, insert, memInsertInto, List.mem_cons]
        exact or_assoc.trans or_left_comm
  rw [ofList, fold]
  simp [empty]

def contains (set : NameSet) (name : String) : Bool := set.names.contains name

def isEmpty (set : NameSet) : Bool := set.names.isEmpty

end NameSet

end PropertyPanel
