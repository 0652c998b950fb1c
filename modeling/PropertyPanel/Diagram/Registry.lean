/-
This file defines the factories that create nodes, and the registry of the node types that a diagram
can create.
-/

import PropertyPanel.BusinessObject.Basic
import PropertyPanel.Diagram.Update
import PropertyPanel.NameSet

namespace PropertyPanel

/-- A factory gives a new node of a type with the given scalars, or it refuses to. -/
abbrev NodeFactory : Type := String → List (String × Scalar) → Except ApplyError BusinessObject

/-- A registry without types creates nodes of every type. -/
structure TypeRegistry where
  types : NameSet
  deriving DecidableEq

namespace TypeRegistry

def permissive : TypeRegistry := ⟨.empty⟩

instance : Inhabited TypeRegistry := ⟨permissive⟩

def ofList (types : List String) : TypeRegistry := ⟨.ofList types⟩

def isPermissive (registry : TypeRegistry) : Bool := registry.types.isEmpty

def knows (registry : TypeRegistry) (typeTag : String) : Bool :=
  registry.isPermissive || registry.types.contains typeTag

/-- A new node has the given scalars, and the last value of a repeated name counts. -/
def create (registry : TypeRegistry) (typeTag : String) (scalars : List (String × Scalar)) :
    Except ApplyError BusinessObject :=
  if registry.knows typeTag then
    .ok <| scalars.foldl (fun node entry => node.setProperty entry.1 (.scalar entry.2))
      (.empty typeTag)
  else .error (.unknownType typeTag)

/-- A registry is the factory of the types that it knows. -/
instance : Coe TypeRegistry NodeFactory := ⟨create⟩

end TypeRegistry

end PropertyPanel
