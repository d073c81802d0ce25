import Runbook.Command.Template
import Runbook.Language
import Runbook.Path

/-! The interpreter call for a block: the commands to try, what goes to standard input,
and the file that is expected to appear. -/
namespace Runbook

/-- Block options that change how a block is run. -/
structure PlanOptions where
  explain : Bool := false
  flamegraph : Bool := false
  deriving DecidableEq, Repr

structure Invocation where
  /-- Argument lists, the program first; the first that starts is used. -/
  candidates : List (List Text)
  stdin : Option Text
  outputPath : Option Text
  deriving DecidableEq, Repr

namespace Invocation

/-- Turns a query into the query for its plan. -/
def explainClause : Text := "EXPLAIN (ANALYZE, BUFFERS, FORMAT JSON) "

def wantsPlan (language : Language) (options : PlanOptions) : Bool :=
  language.resultKind == .structuredPlan && (options.explain || options.flamegraph)

def stdin? (language : Language) (content : Text) (options : PlanOptions) : Option Text :=
  match language.tempFile with
  | .script _ => none
  | .scratch _ => some content
  | .absent => some (if wantsPlan language options then explainClause ++ content else content)

def outputPath? (language : Language) (tempPath : Option Text) : Option Text :=
  match language.outputSuffix?, tempPath with
  | some suffix, some path => some (Path.sibling path suffix)
  | _, _ => none

def values (tempPath outputPath : Option Text) : Command.Values := fun name =>
  if name == "file".toList then tempPath
  else if name == "output".toList then outputPath
  else none

def build (language : Language) (content : Text) (tempPath : Option Text)
    (options : PlanOptions) : Except Command.TemplateError Invocation := do
  let outputPath := outputPath? language tempPath
  let candidates ← language.commands.mapM fun template =>
    Command.arguments template (values tempPath outputPath)
  return ⟨candidates, stdin? language content options, outputPath⟩

end Invocation
end Runbook
