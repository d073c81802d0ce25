import Runbook.Annotation
import Runbook.Artifact
import Runbook.Flamegraph
import Runbook.Outcome
import Runbook.Path

/-! What an executed block leaves in the document. An outcome first says what is asked of
the surroundings, a link or a picture of a plan; with the answers its text is settled. Each
artifact ends in a blank line. -/
namespace Runbook

/-- The text that is shown for a plan, and the picture that is saved. -/
structure Visuals where
  submit : Option Text := none
  draw : Option Text := none
  deriving DecidableEq, Repr

/-- The address of a submitted plan, and the file name of a saved picture. -/
structure Answers where
  link : Option Text := none
  picture : Option Text := none
  deriving DecidableEq, Repr

structure Spliced where
  /-- The new body of a block that holds its own results. -/
  annotatedBody : Option Text := none
  /-- In the order in which they follow the block. -/
  artifacts : List Text := []
  deriving DecidableEq, Repr

def resultFence (text : Text) : Text :=
  Fence.marker ++ "RESULT\n".toList ++ Text.terminated text ++ Fence.marker ++ "\n\n".toList

def planLink (address : Text) : Text :=
  ArtifactKind.planLinkLabel ++ " [View Query Plan](".toList ++ address ++ ")\n\n".toList

def flamegraphImage (name : Text) : Text :=
  ArtifactKind.flamegraphLabel ++ '(' :: name ++ ")\n\n".toList

def diagramImage (name : Text) : Text := "![Mermaid Diagram](".toList ++ name ++ ")\n\n".toList

namespace Splice

/-- What is asked for after a successful run: only for output that is JSON, and a picture
only if there is a plan in it. -/
def visuals (config : BlockConfig) (kind : ResultKind) (outcome : Outcome) : Visuals :=
  let output := Text.trim outcome.stdout
  if ArtifactPlan.isVisualized config kind && outcome.isSuccess && (Json.parse? output).isSome then
    { submit := if config.explain then some output else none
      draw := if config.flamegraph then (Flamegraph.render output).toOption else none }
  else {}

/-- The interpreter's output, or the source itself if there is none. A failure is noted in
exception lines below it. -/
def annotatedBody (outcome : Outcome) (source : Text) : Text :=
  let body := if Text.isBlankText outcome.stdout then source else outcome.stdout
  (if body.isEmpty then [] else Text.terminated body) ++
    if outcome.isSuccess then [] else Annotation.exceptionLines outcome.failureSummary

def diagram (style : ErrorStyle) (outcome : Outcome) : Text :=
  match outcome.isSuccess, outcome.artifact.bind Path.fileName? with
  | true, some name => diagramImage name
  | _, _ => resultFence (outcome.framed style)

/-- The rows, if they are shown or the query has failed, and what there is to see of the plan. -/
def planArtifacts (config : BlockConfig) (style : ErrorStyle) (outcome : Outcome)
    (answers : Answers) : List Text :=
  (if config.showResult || !outcome.isSuccess then [resultFence (outcome.framed style)] else []) ++
    (answers.link.map planLink).toList ++ (answers.picture.map flamegraphImage).toList

/-- The text of a block that has run on `source`. A hidden result leaves nothing. -/
def render (config : BlockConfig) (language : Language) (outcome : Outcome) (source : Text)
    (answers : Answers) : Spliced :=
  if (ArtifactPlan.forBlock config language.resultKind).hidden then {}
  else match language.resultKind with
    | .plainText => { artifacts := [resultFence (outcome.framed language.errorStyle)] }
    | .inlineAnnotated => { annotatedBody := some (annotatedBody outcome source) }
    | .image => { artifacts := [diagram language.errorStyle outcome] }
    | .structuredPlan =>
      { artifacts := planArtifacts config language.errorStyle outcome answers }

end Splice
end Runbook
