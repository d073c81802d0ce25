import Runbook.BlockOption

/-! The options in force for one block. The fence line comes first, then what the document
sets for the block's language, then what it sets for all blocks, then the built-in value. -/
namespace Runbook

/-- Options that one section of the frontmatter sets. -/
abbrev Layer := BlockOption → Option Bool

namespace Layer

def empty : Layer := fun _ => none

def isEmpty (layer : Layer) : Bool := BlockOption.all.all fun option => (layer option).isNone

def set (layer : Layer) (option : BlockOption) (value : Bool) : Layer :=
  fun other => if other = option then some value else layer other

/-- The later of two entries for one option counts; an unknown key counts for nothing. -/
def ofEntries (entries : List (Text × Bool)) : Layer :=
  entries.foldl (fun layer (key, value) =>
    match BlockOption.ofKey? key with
    | some option => layer.set option value
    | none => layer) empty

end Layer

/-- What a document sets for all its blocks. -/
structure Defaults where
  aliases : List (Text × Text) := []
  global : Layer := Layer.empty
  languages : List (Text × Layer) := []

namespace Defaults

def none : Defaults := {}

def isEmpty (defaults : Defaults) : Bool :=
  defaults.aliases.isEmpty && defaults.global.isEmpty && defaults.languages.isEmpty

/-- What a tag is an alias of, or the tag itself. -/
def resolveTag (defaults : Defaults) (tag : Text) : Text := (defaults.aliases.lookup tag).getD tag

def value? (defaults : Defaults) (option : BlockOption) (language : Text) : Option Bool :=
  ((defaults.languages.lookup language).bind fun layer => layer option).or (defaults.global option)

end Defaults

structure BlockConfig where
  language : Text
  run : Bool
  rerun : Bool
  explain : Bool
  flamegraph : Bool
  showResult : Bool
  deriving DecidableEq, Repr

namespace BlockConfig

def resolveOption (option : BlockOption) (language : Text) (header : HeaderOptions)
    (defaults : Defaults) : Bool :=
  match header option with
  | some (.explicit value) => value
  | some .present => true
  | none => (defaults.value? option language).getD option.builtin

/-- `language` is what the tag stands for, aliases replaced. -/
def resolve (language : Text) (header : HeaderOptions) (defaults : Defaults) : BlockConfig where
  language := language
  run := resolveOption .run language header defaults
  rerun := resolveOption .rerun language header defaults
  explain := resolveOption .explain language header defaults
  flamegraph := resolveOption .flamegraph language header defaults
  showResult := resolveOption .result language header defaults

end BlockConfig
end Runbook
