import Runbook.Text

/-! The supported languages: the tags that name them, the commands that run them, how a
block reaches its interpreter and what its output is. -/
namespace Runbook

/-- What the output of a language is in the document. -/
inductive ResultKind
  | plainText
  /-- The interpreter hands the source back with its results as comments. -/
  | inlineAnnotated
  | image
  /-- Rows of a query, or its plan, which can also be drawn or linked to. -/
  | structuredPlan
  deriving DecidableEq, Repr

inductive ErrorStyle
  | generic
  /-- Standard error is appended to the output. -/
  | stderrAppended
  deriving DecidableEq, Repr

/-- The temporary file an interpreter is given, with its suffix. -/
inductive TempFile
  /-- None: the block is the interpreter's standard input. -/
  | absent
  /-- One that holds the block. -/
  | script (suffix : Text)
  /-- An empty one: the block is still the interpreter's standard input. -/
  | scratch (suffix : Text)
  deriving DecidableEq, Repr

inductive Language
  | psql | ruby | js | sqlite | bash | zsh | sh | mermaid
  deriving DecidableEq, Repr

namespace Language

def all : List Language := [.psql, .ruby, .js, .sqlite, .bash, .zsh, .sh, .mermaid]

def name : Language → Text
  | .psql => "psql"
  | .ruby => "ruby"
  | .js => "js"
  | .sqlite => "sqlite"
  | .bash => "bash"
  | .zsh => "zsh"
  | .sh => "sh"
  | .mermaid => "mermaid"

def tags : Language → List Text
  | .js => ["js", "javascript"]
  | .sqlite => ["sql", "sqlite", "sqlite3"]
  | language => [language.name]

/-- Command templates, tried in this order. -/
def commands : Language → List Text
  | .psql => ["psql -A -t -X"]
  | .ruby => ["xmpfilter \x7bfile\x7d"]
  | .js => ["bun \x7bfile\x7d", "node \x7bfile\x7d"]
  | .sqlite => ["sqlite3 \x7bfile\x7d"]
  | .bash => ["bash \x7bfile\x7d"]
  | .zsh => ["zsh \x7bfile\x7d"]
  | .sh => ["sh \x7bfile\x7d"]
  | .mermaid => ["mmdc -i \x7bfile\x7d -o \x7boutput\x7d"]

def tempFile : Language → TempFile
  | .psql => .absent
  | .ruby => .script ".rb"
  | .js => .script ".js"
  | .sqlite => .scratch ".db"
  | .bash | .sh => .script ".sh"
  | .zsh => .script ".zsh"
  | .mermaid => .script ".mmd"

/-- The suffix of a file that the interpreter writes beside the temporary one. -/
def outputSuffix? : Language → Option Text
  | .mermaid => some ".svg"
  | _ => none

def resultKind : Language → ResultKind
  | .psql => .structuredPlan
  | .ruby => .inlineAnnotated
  | .mermaid => .image
  | _ => .plainText

def errorStyle : Language → ErrorStyle
  | .js => .stderrAppended
  | _ => .generic

/-- Whether a running container may stand in for a missing interpreter. -/
def hasContainerFallback (language : Language) : Bool := language == .psql

/-- The language that a tag names, in any case of its letters. -/
def lookup (tag : Text) : Option Language :=
  all.find? fun language => language.tags.any fun known => Text.agrees known tag

@[simp] theorem lookup_name (language : Language) : lookup language.name = some language := by
  cases language <;> decide

end Language
end Runbook
