import Runbook.Yaml.Node

/-! Documents: a root node and the nodes that aliases stand for. An anchor is numbered by
how many names have been anchored before it. A number given twice, after a name was used
again, stands for the later node. -/
namespace Runbook.Yaml

/-- What the names of anchors stand for at a place in a document. -/
abbrev Names := List (Text × Nat)

/-- Anchored nodes in the order in which they begin. -/
abbrev Definitions := List (Nat × Node Nat)

namespace Names

def anchor (name : Option Text) (names : Names) : Option Nat × Names :=
  match name with
  | none => (none, names)
  | some name =>
    (some names.length, (name, names.length) :: names.filter fun (other, _) => other != name)

end Names

/-- A node, the definitions in it, and the names known after it. -/
structure Numbered (α : Type) where
  value : α
  definitions : Definitions
  names : Names

namespace Numbered

/-- Puts the definition of the whole in front of those of its parts. -/
def define (number : Option Nat) (read : Numbered (Node Nat)) : Numbered (Node Nat) :=
  match number with
  | some number => { read with definitions := (number, read.value) :: read.definitions }
  | none => read

end Numbered

namespace Node

mutual

/-- Numbers the anchors of a node. An alias must name an anchor before it. -/
def number? (names : Names) : Node Text → Option (Numbered (Node Nat))
  | .alias name => (names.lookup name).map fun target => ⟨.alias target, [], names⟩
  | .scalar anchor tag style value =>
    let (number, names) := names.anchor anchor
    some (Numbered.define number ⟨.scalar anchor tag style value, [], names⟩)
  | .sequence anchor tag items =>
    let (number, names) := names.anchor anchor
    (numberItems? names items).map fun items =>
      Numbered.define number { items with value := .sequence anchor tag items.value }
  | .mapping anchor tag entries =>
    let (number, names) := names.anchor anchor
    (numberEntries? names entries).map fun entries =>
      Numbered.define number { entries with value := .mapping anchor tag entries.value }

def numberItems? (names : Names) : List (Node Text) → Option (Numbered (List (Node Nat)))
  | [] => some ⟨[], [], names⟩
  | item :: more =>
    (number? names item).bind fun item =>
      (numberItems? item.names more).map fun more =>
        ⟨item.value :: more.value, item.definitions ++ more.definitions, more.names⟩

def numberEntries? (names : Names) :
    List (Node Text × Node Text) → Option (Numbered (List (Node Nat × Node Nat)))
  | [] => some ⟨[], [], names⟩
  | (key, value) :: more =>
    (number? names key).bind fun key =>
      (number? key.names value).bind fun value =>
        (numberEntries? value.names more).map fun more =>
          ⟨(key.value, value.value) :: more.value,
            key.definitions ++ value.definitions ++ more.definitions, more.names⟩

end

end Node

structure Document where
  root : Node Nat := .empty
  definitions : Definitions := []

namespace Document

def standardTags : List TagDirective :=
  [⟨['!'], Utf8.encode "!"⟩, ⟨['!', '!'], Utf8.encode "tag:yaml.org,2002:"⟩]

/-- Splits the directives off the tokens. -/
def directives : List Token → List Directive × List Token
  | .directive directive :: rest => ((directives rest).1.cons directive, (directives rest).2)
  | rest => ([], rest)

/-- What handles stand for, unless one is set twice or the version is not a known one. -/
def tagDirectives? (directives : List Directive) : Option (List TagDirective) :=
  let versions := directives.filterMap fun directive =>
    match directive with
    | .version major minor => some (major, minor)
    | .tag _ => none
  let tags := directives.filterMap fun directive =>
    match directive with
    | .tag directive => some directive
    | .version _ _ => none
  let known := versions.all fun (major, minor) => major = 1 && (minor = 1 || minor = 2)
  if known && versions.length ≤ 1 && (tags.map TagDirective.handle).Nodup then
    some (tags ++ standardTags)
  else none

def endsContent : List Token → Bool
  | [] | .directive _ :: _ | .documentStart :: _ | .documentEnd :: _ => true
  | _ => false

/-- Reads the root of the one document. Each level of a node takes a token at least, and
costs fuel four times at most. -/
def root? (tokens : List Token) : Option (Node Text × List Token) :=
  match directives tokens with
  | ([], .documentEnd :: _) => none
  | (directives, .documentStart :: rest) =>
    (tagDirectives? directives).bind fun tags =>
      if endsContent rest then some (.empty, rest)
      else Node.read tags .block rest (4 * rest.length + 4)
  | ([], rest) => Node.read standardTags .block rest (4 * rest.length + 4)
  | _ => none

/-- The document of a text. A text without any has an empty one; more than one is refused. -/
def ofText? (text : Text) : Option Document := do
  let tokens ← Token.ofText? text
  if tokens.isEmpty then return {}
  let (root, rest) ← root? tokens
  if rest.all fun token => token == .documentEnd then
    let numbered ← root.number? []
    return ⟨numbered.value, numbered.definitions⟩
  else none

/-- The node with a number. -/
def node? (document : Document) (number : Nat) : Option (Node Nat) :=
  (document.definitions.reverse.find? fun (other, _) => other == number).map (·.2)

end Document
end Runbook.Yaml
