import Runbook.Language
import Runbook.Text.Casing
import Runbook.Text.Blank

/-! The outcome of running a block, and how it reads in a result: as it is on success,
with its exit status and standard error in front otherwise. -/
namespace Runbook

structure Outcome where
  stdout : Text
  stderr : Text := []
  /-- None if a signal or a time limit ended the interpreter. -/
  exitCode : Option Int
  /-- The path of a file that the interpreter made. -/
  artifact : Option Text := none
  deriving DecidableEq, Repr

namespace Outcome

/-- The outcome reported for a language that is not supported. -/
def unsupported (language : Text) : Outcome where
  stdout := "ERROR: Unsupported language: ".toList ++ language
  exitCode := some 1

def isSuccess (outcome : Outcome) : Bool := outcome.exitCode == some 0

def statusLabel (outcome : Outcome) : Text :=
  match outcome.exitCode with
  | some code => Text.ofInt code
  | none => "terminated"

/-- One sentence on the status, and what standard error says. -/
def failureSummary (outcome : Outcome) : Text :=
  let stderr := Text.trim outcome.stderr
  "Execution failed (status: ".toList ++ outcome.statusLabel ++ ").".toList ++
    if stderr.isEmpty then [] else " Stderr: ".toList ++ stderr

/-- Standard output, with standard error below it where the language asks for that. -/
def report (style : ErrorStyle) (outcome : Outcome) : Text :=
  let stderr := Text.trim outcome.stderr
  outcome.stdout ++
    if style == .stderrAppended && !stderr.isEmpty then "\nStderr:\n".toList ++ stderr else []

/-- The report already says that something failed. -/
def readsAsError (style : ErrorStyle) (report : Text) : Bool :=
  Text.occursIn "error:" (Text.lower report) ||
    (style == .stderrAppended && Text.occursIn "Stderr:" report)

def framed (style : ErrorStyle) (outcome : Outcome) : Text :=
  if outcome.isSuccess then outcome.stdout
  else if readsAsError style (outcome.report style) then outcome.report style
  else outcome.failureSummary ++ '\n' :: outcome.report style

end Outcome
end Runbook
