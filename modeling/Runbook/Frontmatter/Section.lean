import Runbook.Config
import Runbook.Text.Casing
import Runbook.Yaml.Value

/-! The section of a frontmatter that sets a document's defaults: aliases of tags, options
for all languages, and options for each. All other sections are left alone. -/
namespace Runbook.Frontmatter

open Yaml (Document Node Reading Value)

/-- A section as it is written. Keys that are neither of the first two name languages. -/
structure Section where
  aliases : Option (List (List (Text × Text))) := none
  defaults : Option (List (Text × Bool)) := none
  languages : List (Text × Value) := []

namespace Section

def aliasKey : Text := "alias"
def defaultsKey : Text := "defaults"

/-- Levels of collections that a language's entry may have: all but the two around it. -/
def levels : Nat := 126

def textEntries (document : Document) (node : Node Nat) : Reading (List (Text × Text)) := do
  (← document.entries node).mapM fun (key, value) => do
    return (← document.text key, ← document.text value)

def boolEntries (document : Document) (node : Node Nat) : Reading (List (Text × Bool)) := do
  (← document.entries node).mapM fun (key, value) => do
    return (← document.text key, ← document.bool value)

/-- Adds an entry. The two keys of its own must not come twice. -/
def add (document : Document) (written : Section) (entry : Node Nat × Node Nat) :
    Reading Section := do
  let key ← document.text entry.1
  if key == aliasKey then
    if written.aliases.isSome then failure
    let aliases ← (← document.items entry.2).mapM (textEntries document)
    return { written with aliases := some aliases }
  else if key == defaultsKey then
    if written.defaults.isSome then failure
    return { written with defaults := some (← boolEntries document entry.2) }
  else
    let value ← document.value levels entry.2
    return { written with languages := written.languages ++ [(key, value)] }

def read (document : Document) (node : Node Nat) : Reading Section := do
  let written ← (← document.entries node).foldlM (add document) {}
  if written.languages.all fun (_, value) => value.hasDistinctKeys then return written else failure

/-- Entries by key, in the order of the keys. Of those with one key the last counts. -/
def ordered (entries : List (Text × α)) : List (Text × α) :=
  let kept := entries.foldr
    (fun entry kept => if kept.any fun other => other.1 == entry.1 then kept else entry :: kept) []
  kept.mergeSort fun a b => !List.lex b.1 a.1 fun x y => decide (x < y)

/-- Sets a key, whatever it was set to before. -/
def set (key : Text) (value : α) (entries : List (Text × α)) : List (Text × α) :=
  (key, value) :: entries.filter fun other => other.1 != key

/-- The options in a language's mapping: those of its entries that are text and a truth value. -/
def optionEntries (entries : List (Value × Value)) : List (Text × Bool) :=
  entries.filterMap fun entry =>
    match entry with
    | (.text key, .bool value) => some (key, value)
    | _ => none

/-- Names are compared in lower case, and a later entry takes the place of an earlier one.
Within a mapping, entries count as later in the order of their keys. -/
def toDefaults (written : Section) : Defaults where
  aliases := (written.aliases.getD []).foldl
    (fun known entries => (ordered entries).foldl
      (fun known (name, target) => set (Text.lower name) (Text.lower target) known) known) []
  global := Layer.ofEntries (ordered (written.defaults.getD []))
  languages := (ordered written.languages).foldl
    (fun known (name, value) =>
      match value with
      | .mapping entries => set (Text.lower name) (Layer.ofEntries (optionEntries entries)) known
      | _ => known) []

end Section

def sectionKey : Text := "markdown-run"

/-- Looks for the section among the entries of a document. It may stand there only once. -/
def findSection (document : Document) (found : Option (Option Section))
    (entry : Node Nat × Node Nat) : Reading (Option (Option Section)) := do
  if (← document.text entry.1) == sectionKey then
    if found.isSome then failure
    let node ← document.follow entry.2
    if ← document.isPresent node then return some (some (← Section.read document node))
    else return some none
  else return found

def readDefaults (document : Document) : Reading Defaults := do
  let found ← (← document.entries document.root).foldlM (findSection document) none
  return ((found.join).map Section.toDefaults).getD .none

/-- The defaults that a YAML text sets, or none if it is not in order. As many aliases may
be followed as there are signs in the document, a hundred times over. -/
def defaults? (yaml : Text) : Option Defaults :=
  if Text.isBlankText yaml then some .none
  else (Yaml.Document.ofText? yaml).bind fun document =>
    (readDefaults document (100 * document.root.size)).map (·.1)

end Runbook.Frontmatter
