/-
This file reads the tree of a YAML text from its tokens.
-/

import PropertyPanel.Yaml.Atom
import PropertyPanel.Yaml.Token

namespace PropertyPanel.Yaml

/-- A missing part is an empty plain scalar. -/
def emptyLeaf : Source.Leaf := plainLeaf ""

def emptyNode : Source := .leaf emptyLeaf

/-- Only a scalar can name an entry. -/
def keyLeaf : Source → Source.Leaf
  | .leaf value => value
  | _ => .ofAtom .irregular

mutual

/-- A node is a scalar, a flow collection or, in a block, a block collection. -/
def node? (fuel : Nat) (block indentless : Bool) (tokens : List Token) :
    Option (Source × List Token) :=
  match fuel with
  | 0 => none
  | fuel + 1 =>
      match tokens with
      | .scalar text plain :: rest =>
          some (.leaf (if plain then plainLeaf text else .ofText text), rest)
      | .openFlowSequence :: rest =>
          (flowItems? fuel true rest).map fun (items, rest) => (.list items, rest)
      | .openFlowMapping :: rest =>
          (flowEntries? fuel true rest).map fun (entries, rest) => (.table entries, rest)
      | .blockEntry :: _ =>
          if indentless then
            (indentlessItems? fuel tokens).map fun (items, rest) => (.list items, rest)
          else none
      | .openSequence :: rest =>
          if block then (blockItems? fuel rest).map fun (items, rest) => (.list items, rest)
          else none
      | .openMapping :: rest =>
          if block then
            (blockEntries? fuel rest).map fun (entries, rest) => (.table entries, rest)
          else none
      | _ => none

/-- A part is empty where one of the given tokens follows. -/
def optional? (fuel : Nat) (block indentless : Bool) (enders tokens : List Token) :
    Option (Source × List Token) :=
  match fuel with
  | 0 => none
  | fuel + 1 =>
      match tokens with
      | [] => some (emptyNode, [])
      | token :: _ =>
          if token ∈ enders then some (emptyNode, tokens) else node? fuel block indentless tokens

def blockItems? (fuel : Nat) (tokens : List Token) : Option (List Source × List Token) :=
  match fuel with
  | 0 => none
  | fuel + 1 =>
      match tokens with
      | .closeBlock :: rest => some ([], rest)
      | .blockEntry :: rest => do
          let (item, rest) ← optional? fuel true false [.blockEntry, .closeBlock] rest
          let (items, rest) ← blockItems? fuel rest
          return (item :: items, rest)
      | _ => none

/-- The items of a list may stand at the column of the key that names it. -/
def indentlessItems? (fuel : Nat) (tokens : List Token) : Option (List Source × List Token) :=
  match fuel with
  | 0 => none
  | fuel + 1 =>
      match tokens with
      | .blockEntry :: rest => do
          let (item, rest) ←
            optional? fuel true false [.blockEntry, .key, .value, .closeBlock] rest
          let (items, rest) ← indentlessItems? fuel rest
          return (item :: items, rest)
      | _ => some ([], tokens)

def blockEntries? (fuel : Nat) (tokens : List Token) :
    Option (List (Source.Leaf × Source) × List Token) :=
  match fuel with
  | 0 => none
  | fuel + 1 =>
      match tokens with
      | .closeBlock :: rest => some ([], rest)
      | .key :: rest => do
          let enders := [Token.key, .value, .closeBlock]
          let (name, rest) ← optional? fuel true true enders rest
          let (value, rest) ←
            match rest with
            | .value :: rest => optional? fuel true true enders rest
            | _ => some (emptyNode, rest)
          let (entries, rest) ← blockEntries? fuel rest
          return ((keyLeaf name, value) :: entries, rest)
      | _ => none

/-- Items between brackets are separated by commas, and one comma may follow the last item. -/
def flowItems? (fuel : Nat) (first : Bool) (tokens : List Token) :
    Option (List Source × List Token) :=
  match fuel with
  | 0 => none
  | fuel + 1 =>
      match tokens with
      | .closeFlowSequence :: rest => some ([], rest)
      | .flowEntry :: .closeFlowSequence :: rest => if first then none else some ([], rest)
      | .flowEntry :: rest =>
          if first then none
          else do
            let (item, rest) ← flowItem? fuel rest
            let (items, rest) ← flowItems? fuel false rest
            return (item :: items, rest)
      | _ =>
          if first then do
            let (item, rest) ← flowItem? fuel tokens
            let (items, rest) ← flowItems? fuel false rest
            return (item :: items, rest)
          else none

/-- An item with a key is a table of one entry. -/
def flowItem? (fuel : Nat) (tokens : List Token) : Option (Source × List Token) :=
  match fuel with
  | 0 => none
  | fuel + 1 =>
      match tokens with
      | .key :: rest => do
          let enders := [Token.value, .flowEntry, .closeFlowSequence]
          let (name, rest) ← optional? fuel false false enders rest
          let (value, rest) ←
            match rest with
            | .value :: rest =>
                optional? fuel false false [.flowEntry, .closeFlowSequence] rest
            | _ => some (emptyNode, rest)
          return (.table [(keyLeaf name, value)], rest)
      | _ => node? fuel false false tokens

def flowEntries? (fuel : Nat) (first : Bool) (tokens : List Token) :
    Option (List (Source.Leaf × Source) × List Token) :=
  match fuel with
  | 0 => none
  | fuel + 1 =>
      match tokens with
      | .closeFlowMapping :: rest => some ([], rest)
      | .flowEntry :: .closeFlowMapping :: rest => if first then none else some ([], rest)
      | .flowEntry :: rest =>
          if first then none
          else do
            let (entry, rest) ← flowEntryPart? fuel rest
            let (entries, rest) ← flowEntries? fuel false rest
            return (entry :: entries, rest)
      | _ =>
          if first then do
            let (entry, rest) ← flowEntryPart? fuel tokens
            let (entries, rest) ← flowEntries? fuel false rest
            return (entry :: entries, rest)
          else none

/-- An entry without a colon has an empty value. -/
def flowEntryPart? (fuel : Nat) (tokens : List Token) :
    Option ((Source.Leaf × Source) × List Token) :=
  match fuel with
  | 0 => none
  | fuel + 1 =>
      match tokens with
      | .key :: rest => do
          let enders := [Token.value, .flowEntry, .closeFlowMapping]
          let (name, rest) ← optional? fuel false false enders rest
          let (value, rest) ←
            match rest with
            | .value :: rest => optional? fuel false false [.flowEntry, .closeFlowMapping] rest
            | _ => some (emptyNode, rest)
          return ((keyLeaf name, value), rest)
      | _ =>
          (node? fuel false false tokens).map fun (name, rest) => ((keyLeaf name, emptyNode), rest)

end

/-- A document may be introduced by its marker, and an end marker may follow it. -/
def document? (tokens : List Token) : Option Source := do
  let fuel := 2 * tokens.length + 2
  let tokens := tokens.dropWhile fun token => token = .documentEnd
  let (tree, rest) ←
    match tokens with
    | [] => some (.table [], [])
    | .documentStart :: rest => optional? fuel true false [.documentStart, .documentEnd] rest
    | _ => node? fuel true false tokens
  if rest.all fun token => token = .documentEnd then some tree else none

/-- The number of levels that lists and tables of YAML may be nested. -/
def nestingLimit : Nat := 128

/-- The tree of a YAML text, if the text is one document or none. -/
def source? (text : String) : Option Source := (Token.scan? text).bind document?

end PropertyPanel.Yaml
