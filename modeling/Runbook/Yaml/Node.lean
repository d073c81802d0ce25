import Runbook.Yaml.Token

/-! Nodes: the tree that tokens stand for. An alias names the node it stands for until
anchors are numbered; after that it holds the number. -/
namespace Runbook.Yaml

inductive Node (ρ : Type)
  | alias (target : ρ)
  | scalar (anchor : Option Text) (tag : Option Tag) (style : Style) (value : Text)
  | sequence (anchor : Option Text) (tag : Option Tag) (items : List (Node ρ))
  | mapping (anchor : Option Text) (tag : Option Tag) (entries : List (Node ρ × Node ρ))

namespace Node

def empty : Node ρ := .scalar none none .plain []

/-- What is written before a node. -/
structure Properties where
  anchor : Option Text := none
  tag : Option Tag := none

/-- What a tag stands for, if its handle is known. -/
def resolveTag? (directives : List TagDirective) (tag : WrittenTag) : Option Tag :=
  if tag.handle.isEmpty then some tag.suffix
  else (directives.find? fun directive => directive.handle == tag.handle).map fun directive =>
    directive.stem ++ tag.suffix

def properties? (directives : List TagDirective) : List Token → Option (Properties × List Token)
  | .anchor anchor :: .tag tag :: rest | .tag tag :: .anchor anchor :: rest =>
    (resolveTag? directives tag).map fun tag => ({ anchor, tag := some tag }, rest)
  | .anchor anchor :: rest => some ({ anchor }, rest)
  | .tag tag :: rest => (resolveTag? directives tag).map fun tag => ({ tag := some tag }, rest)
  | rest => some ({}, rest)

/-- A tag that is only an exclamation mark says nothing about a scalar. -/
def scalarTag (tag : Option Tag) : Option Tag :=
  if tag == some (Utf8.encode "!") then none else tag

/-- Where a node stands, which decides what may begin there. -/
inductive Place
  | flow
  | block
  /-- A key or a value of a block mapping, where a sequence needs no indentation. -/
  | blockEntry
  deriving DecidableEq, Repr

def endsKey : Token → Bool
  | .key | .value | .blockEnd => true
  | _ => false

abbrev Step (α : Type) := Option (α × List Token)

mutual

def read (directives : List TagDirective) (place : Place) (tokens : List Token) :
    Nat → Step (Node Text)
  | 0 => none
  | fuel + 1 =>
    match tokens with
    | .alias name :: rest => some (.alias name, rest)
    | _ =>
      (properties? directives tokens).bind fun (properties, tokens) =>
        let sequence (read : Step (List (Node Text))) : Step (Node Text) :=
          read.map fun (items, rest) => (.sequence properties.anchor properties.tag items, rest)
        let mapping (read : Step (List (Node Text × Node Text))) : Step (Node Text) :=
          read.map fun (entries, rest) => (.mapping properties.anchor properties.tag entries, rest)
        let other : Step (Node Text) :=
          if properties.anchor.isSome || properties.tag.isSome then
            some (.scalar properties.anchor properties.tag .plain [], tokens)
          else none
        match tokens with
        | .blockEntry :: _ =>
          if place = .blockEntry then sequence (readIndentless directives tokens fuel) else other
        | .scalar style value :: rest =>
          some (.scalar properties.anchor (scalarTag properties.tag) style value, rest)
        | .flowSequenceStart :: rest => sequence (readFlowItems directives true rest fuel)
        | .flowMappingStart :: rest => mapping (readFlowEntries directives true rest fuel)
        | .blockSequenceStart :: rest =>
          if place = .flow then other else sequence (readItems directives rest fuel)
        | .blockMappingStart :: rest =>
          if place = .flow then other else mapping (readEntries directives rest fuel)
        | _ => other

/-- Reads a node unless a token comes that cannot begin one; then the node is empty. -/
def readUnless (directives : List TagDirective) (place : Place) (stops : Token → Bool)
    (tokens : List Token) : Nat → Step (Node Text)
  | 0 => none
  | fuel + 1 =>
    match tokens with
    | [] => none
    | token :: _ => if stops token then some (empty, tokens) else read directives place tokens fuel

def readItems (directives : List TagDirective) (tokens : List Token) :
    Nat → Step (List (Node Text))
  | 0 => none
  | fuel + 1 =>
    match tokens with
    | .blockEntry :: rest =>
      let stops : Token → Bool := fun token => token == .blockEntry || token == .blockEnd
      (readUnless directives .block stops rest fuel).bind fun (item, rest) =>
        (readItems directives rest fuel).map fun (items, rest) => (item :: items, rest)
    | .blockEnd :: rest => some ([], rest)
    | _ => none

/-- Reads the items of a sequence that shares its indentation with the mapping around it. -/
def readIndentless (directives : List TagDirective) (tokens : List Token) :
    Nat → Step (List (Node Text))
  | 0 => none
  | fuel + 1 =>
    match tokens with
    | .blockEntry :: rest =>
      let stops : Token → Bool := fun token => token == .blockEntry || endsKey token
      (readUnless directives .block stops rest fuel).bind fun (item, rest) =>
        (readIndentless directives rest fuel).map fun (items, rest) => (item :: items, rest)
    | _ => some ([], tokens)

/-- Reads the entries of a block mapping. A key or a value may be missing. -/
def readEntries (directives : List TagDirective) (tokens : List Token) :
    Nat → Step (List (Node Text × Node Text))
  | 0 => none
  | fuel + 1 =>
    let afterKey (key : Node Text) (rest : List Token) : Step (List (Node Text × Node Text)) :=
      let value := match rest with
        | .value :: rest => readUnless directives .blockEntry endsKey rest fuel
        | _ => some (empty, rest)
      value.bind fun (value, rest) =>
        (readEntries directives rest fuel).map fun (entries, rest) => ((key, value) :: entries, rest)
    match tokens with
    | .key :: rest =>
      (readUnless directives .blockEntry endsKey rest fuel).bind fun (key, rest) => afterKey key rest
    | .blockEnd :: rest => some ([], rest)
    | _ => none

/-- Reads the items of a sequence in brackets. A key among them makes a mapping with one
entry of an item. If nothing stands between the key indicator and what follows it, the
token that follows is left out, whatever it is. -/
def readFlowItems (directives : List TagDirective) (first : Bool) (tokens : List Token) :
    Nat → Step (List (Node Text))
  | 0 => none
  | fuel + 1 =>
    let item (tokens : List Token) : Step (List (Node Text)) :=
      match tokens with
      | .flowSequenceEnd :: rest => some ([], rest)
      | .key :: rest =>
        let stops : Token → Bool := fun token =>
          token == .value || token == .flowEntry || token == .flowSequenceEnd
        let key := match rest with
          | [] => none
          | token :: more =>
            if stops token then some (empty, more) else read directives .flow rest fuel
        key.bind fun (key, rest) =>
          let stops : Token → Bool := fun token => token == .flowEntry || token == .flowSequenceEnd
          let value := match rest with
            | .value :: rest => readUnless directives .flow stops rest fuel
            | _ => some (empty, rest)
          value.bind fun (value, rest) =>
            (readFlowItems directives false rest fuel).map fun (items, rest) =>
              (.mapping none none [(key, value)] :: items, rest)
      | _ =>
        (read directives .flow tokens fuel).bind fun (item, rest) =>
          (readFlowItems directives false rest fuel).map fun (items, rest) => (item :: items, rest)
    if first then item tokens
    else match tokens with
      | .flowEntry :: rest => item rest
      | .flowSequenceEnd :: rest => some ([], rest)
      | _ => none

/-- Reads the entries of a mapping in braces. An entry without a colon has an empty value. -/
def readFlowEntries (directives : List TagDirective) (first : Bool) (tokens : List Token) :
    Nat → Step (List (Node Text × Node Text))
  | 0 => none
  | fuel + 1 =>
    let more (key value : Node Text) (rest : List Token) : Step (List (Node Text × Node Text)) :=
      (readFlowEntries directives false rest fuel).map fun (entries, rest) =>
        ((key, value) :: entries, rest)
    let stops : Token → Bool := fun token => token == .flowEntry || token == .flowMappingEnd
    let entry (tokens : List Token) : Step (List (Node Text × Node Text)) :=
      match tokens with
      | .flowMappingEnd :: rest => some ([], rest)
      | .key :: rest =>
        (readUnless directives .flow (fun token => token == .value || stops token) rest fuel).bind
          fun (key, rest) =>
            let value := match rest with
              | .value :: rest => readUnless directives .flow stops rest fuel
              | _ => some (empty, rest)
            value.bind fun (value, rest) => more key value rest
      | _ =>
        (read directives .flow tokens fuel).bind fun (key, rest) => more key empty rest
    if first then entry tokens
    else match tokens with
      | .flowEntry :: rest => entry rest
      | .flowMappingEnd :: rest => some ([], rest)
      | _ => none

end

/-- How many signs a node is made of: its brackets, its scalars and its aliases. -/
def size : Node ρ → Nat
  | .alias _ | .scalar _ _ _ _ => 1
  | .sequence _ _ items => 2 + (items.attach.map fun ⟨item, _⟩ => size item).foldr Nat.add 0
  | .mapping _ _ entries =>
    2 + (entries.attach.map fun ⟨(key, value), _⟩ => size key + size value).foldr Nat.add 0
termination_by node => sizeOf node
decreasing_by
  all_goals rename_i member
  all_goals have := List.sizeOf_lt_of_mem member
  all_goals simp only [sequence.sizeOf_spec, mapping.sizeOf_spec, Prod.mk.sizeOf_spec] at *
  all_goals omega

end Node
end Runbook.Yaml
