import Runbook.Decision

/-! The segments of a document: lines that are copied, and closed blocks of supported
languages with the lines after them that belong to them. They depend on the document
alone and not on what any block prints. -/
namespace Runbook

/-- A code block with its closing fence. The line that opens it is copied before it. -/
structure Block where
  language : Language
  config : BlockConfig
  body : List Line
  close : Line
  /-- The lines after the closing fence that were looked at. -/
  read : List Line
  decision : Decision
  deriving DecidableEq, Repr

namespace Block

def content (block : Block) : Text := block.body.flatten

def plan (block : Block) : ArtifactPlan := .forBlock block.config block.language.resultKind

/-- What an interpreter is given: the content, without results of earlier runs in it. -/
def source (block : Block) : Text :=
  if block.plan.inline then Annotation.strip block.content else block.content

end Block

inductive Segment
  | copied (line : Line)
  | block (block : Block)
  deriving DecidableEq, Repr

/-- A block whose closing fence has not come yet. -/
structure OpenBlock where
  language : Language
  config : BlockConfig
  body : List Line := []
  deriving DecidableEq, Repr

inductive ScanState
  | outside
  | inBlock (block : OpenBlock)
  /-- In a result of an inline block that no block owns. -/
  | inResult
  deriving DecidableEq, Repr

namespace OpenBlock

/-- The block that a fence line opens, if its language is supported. -/
def ofHeader? (defaults : Defaults) (header : Fence.Header) : Option OpenBlock :=
  let tag := defaults.resolveTag header.tag
  (Language.lookup tag).map fun language =>
    { language, config := .resolve tag (.parse header.rawOptions) defaults }

def add (block : OpenBlock) (line : Line) : OpenBlock := { block with body := block.body ++ [line] }

def decision (block : OpenBlock) (following : List Line) : Decision :=
  .forBlock block.config (.forBlock block.config block.language.resultKind) block.body.flatten
    following

def close (block : OpenBlock) (line : Line) (following : List Line) : Block where
  language := block.language
  config := block.config
  body := block.body
  close := line
  read := following.take (following.length - (block.decision following).unread.length)
  decision := block.decision following

end OpenBlock

namespace ScanState

/-- Where a line outside any block leads. -/
def afterOutside (defaults : Defaults) (line : Line) : ScanState :=
  if Fence.opensInlineResult line then .inResult
  else match (Fence.Header.parse? line).bind (OpenBlock.ofHeader? defaults) with
    | some block => .inBlock block
    | none => .outside

end ScanState

/-- Cuts lines into segments. A block that is never closed is copied. -/
def segments (defaults : Defaults) : ScanState → List Line → List Segment
  | .inBlock block, [] => block.body.map .copied
  | _, [] => []
  | .outside, line :: following =>
    .copied line :: segments defaults (.afterOutside defaults line) following
  | .inResult, line :: following =>
    .copied line :: segments defaults (if Fence.isClose line then .outside else .inResult) following
  | .inBlock block, line :: following =>
    if Fence.isClose line then
      .block (block.close line following) ::
        segments defaults .outside (block.decision following).unread
    else segments defaults (.inBlock (block.add line)) following
termination_by _ lines => lines.length
decreasing_by
  all_goals simp only [List.length_cons]
  all_goals try omega
  have := (Decision.forBlock_unread block.config (.forBlock block.config block.language.resultKind)
    block.body.flatten following).length_le
  simp only [OpenBlock.decision]
  omega

end Runbook
