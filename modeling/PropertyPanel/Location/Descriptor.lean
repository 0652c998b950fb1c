/-
This file compiles declared steps into named locations.
-/

import PropertyPanel.Location.Step

namespace PropertyPanel

/-- A step as a configuration declares it. -/
structure StepDeclaration where
  property : String
  nodeType : Option String
  array : Bool
  conditions : Dictionary String Json

namespace StepDeclaration

/-- The parts of a declared step, in the order in which a list spells them. -/
def partNames : List String := ["property", "type", "array", "where"]

def ofSource? (levels : Nat) (source : Source) : Option StepDeclaration := do
  let parts ← source.record? partNames
  let property ← Source.required? parts "property" Source.text?
  let nodeType ← Source.defaulted? parts "type" none (Source.optional? Source.text?)
  let array ← Source.defaulted? parts "array" false Source.flag?
  let conditions ← Source.defaulted? parts "where" .empty
    (Source.dictionary? (Source.json? (levels - 2)))
  return ⟨property, nodeType, array, conditions⟩

/-- A part with its default value is not written. -/
def toJson (step : StepDeclaration) : Json :=
  .object <|
    [("property", .text step.property)] ++
    (step.nodeType.map fun nodeType => ("type", Json.text nodeType)).toList ++
    (if step.array then [("array", .flag true)] else []) ++
    (if step.conditions.isEmpty then [] else [("where", .object step.conditions.entries)])

end StepDeclaration

/-- A location is a named chain of steps. -/
structure Location where
  name : String
  steps : List Step
  deriving DecidableEq

namespace Location

inductive Defect where
  | noSteps
  | emptyProperty (position : Nat)
  | conditionNotScalar (name : String)
  deriving DecidableEq

def Defect.message : Defect → String
  | noSteps => "location has no steps"
  | emptyProperty position => "step " ++ toString position ++ " has an empty property"
  | conditionNotScalar name => "where-clause '" ++ name ++ "' must be a scalar"

def compileCondition (condition : String × Json) : Except Defect (String × Expected) :=
  if condition.2.text? = some fieldIdWord then .ok (condition.1, .fieldId)
  else
    match Scalar.ofJson? condition.2 with
    | some value => .ok (condition.1, .literal value)
    | none => .error (.conditionNotScalar condition.1)

/-- An untyped step is a leaf where it is the last step. -/
def compileStep (position : Nat) (last : Bool) (step : StepDeclaration) : Except Defect Step :=
  if step.property.isEmpty then .error (.emptyProperty position)
  else do
    let filter := Filter.mk (← step.conditions.entries.mapM compileCondition)
    let property := PropertyName.ofText step.property
    match step.nodeType with
    | some nodeType => return .child property nodeType filter step.array
    | none => return if last then .leaf property else .navigate property filter

def compileFrom (position : Nat) : List StepDeclaration → Except Defect (List Step)
  | [] => .ok []
  | step :: rest => do
      let compiled ← compileStep position rest.isEmpty step
      let others ← compileFrom (position + 1) rest
      return compiled :: others

def compile (name : String) (steps : List StepDeclaration) : Except Defect Location :=
  if steps.isEmpty then .error .noSteps
  else (compileFrom 1 steps).map fun steps => ⟨name, steps⟩

/-- The location is a scalar of the element itself. -/
def isAttribute (location : Location) : Bool :=
  match location.steps with
  | [.leaf _] => true
  | _ => false

def display (location : Location) : String :=
  " / ".intercalate (location.steps.map Step.display)

end Location

end PropertyPanel
