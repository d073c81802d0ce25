import Runbook.Failure
import Runbook.Frontmatter
import Runbook.Invocation
import Runbook.Segment
import Runbook.Splice

/-! A pass over a document: every block that is due is executed, in order, and its result
takes the place of the one before. A failure ends the pass. -/
namespace Runbook

structure Request where
  language : Language
  content : Text
  options : PlanOptions
  deriving DecidableEq, Repr

/-- The surroundings of a pass, and how each request changes their state. -/
structure Services (σ : Type) where
  execute : Request → σ → Except Failure Outcome × σ
  /-- Shows a plan to a service and answers its address there. -/
  submit : Text → σ → Option Text × σ
  /-- Saves a picture and answers its file name. -/
  save : Text → σ → Option Text × σ

namespace Services

def ask (service : Text → σ → Option Text × σ) (question : Option Text) (state : σ) :
    Option Text × σ :=
  match question with
  | some text => service text state
  | none => (none, state)

/-- Submits a plan first and then saves its picture. -/
def answer (services : Services σ) (visuals : Visuals) (state : σ) : Answers × σ :=
  let (link, state) := ask services.submit visuals.submit state
  let (picture, state) := ask services.save visuals.draw state
  (⟨link, picture⟩, state)

end Services

namespace Block

def request (block : Block) : Request where
  language := block.language
  content := block.source
  options := ⟨block.config.explain, block.config.flamegraph⟩

end Block

/-- A segment after the pass has dealt with it. -/
inductive Piece
  | copied (line : Line)
  | kept (block : Block)
  | executed (block : Block) (outcome : Outcome) (spliced : Spliced)
  deriving DecidableEq, Repr

namespace Piece

/-- The lines of the document that a piece comes from. -/
def source : Piece → List Line
  | .copied line => [line]
  | .kept block | .executed block _ _ => block.body ++ block.close :: block.read

/-- New artifacts, set off from the closing fence by a blank line. Without any, the blank
line that was there stays. -/
def artifactsText (block : Block) (artifacts : List Text) : Text :=
  if artifacts.isEmpty then block.decision.separator.getD []
  else
    (if Text.endsLine block.close then [] else ['\n']) ++
      block.decision.separator.getD ['\n'] ++ artifacts.flatten

def output : Piece → Text
  | .copied line => line
  | .kept block => block.content ++ block.close ++ block.decision.passThrough.flatten
  | .executed block _ spliced =>
    spliced.annotatedBody.getD block.content ++ block.close ++
      artifactsText block spliced.artifacts ++ block.decision.passThrough.flatten

end Piece

/-- What a pass has done, up to its end or to the failure that stopped it. -/
structure Run (σ : Type) where
  pieces : List Piece := []
  requests : List Request := []
  submitted : List Text := []
  failure : Option Failure := none
  state : σ

namespace Run

def text (run : Run σ) : Text := run.pieces.flatMap Piece.output

def result (run : Run σ) : Except Failure Text :=
  match run.failure with
  | some failure => .error failure
  | none => .ok run.text

def prepend (pieces : List Piece) (requests : List Request) (submitted : List Text)
    (run : Run σ) : Run σ :=
  { run with
    pieces := pieces ++ run.pieces
    requests := requests ++ run.requests
    submitted := submitted ++ run.submitted }

end Run

namespace Pass

/-- Executes segments one after the other. -/
def run (services : Services σ) (state : σ) : List Segment → Run σ
  | [] => { state }
  | .copied line :: more => (run services state more).prepend [.copied line] [] []
  | .block block :: more =>
    if block.decision.execute then
      match services.execute block.request state with
      | (.error failure, state) => { requests := [block.request], failure := some failure, state }
      | (.ok outcome, state) =>
        let visuals := Splice.visuals block.config block.language.resultKind outcome
        let (answers, state) := services.answer visuals state
        let spliced := Splice.render block.config block.language outcome block.source answers
        (run services state more).prepend [.executed block outcome spliced] [block.request]
          visuals.submit.toList
    else (run services state more).prepend [.kept block] [] []

/-- A pass over a whole document. Its frontmatter is copied and sets the defaults. -/
def ofDocument (services : Services σ) (state : σ) (document : Text) : Run σ :=
  let front := Frontmatter.split (Text.lines document)
  (run services state (segments front.defaults .outside front.rest)).prepend
    (front.lines.map .copied) [] []

end Pass
end Runbook
