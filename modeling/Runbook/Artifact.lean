import Runbook.Config
import Runbook.Fence
import Runbook.Language

/-! Artifacts: what earlier runs left after a block. A fenced artifact runs to its closing
fence, an image is one line, and a link or a flamegraph takes along the blank lines and
further links of its kind that follow it. -/
namespace Runbook

inductive ArtifactKind
  | resultFence
  /-- A result fence that stands in for an annotated block. -/
  | inlineResultFence
  | image
  | planLink
  | flamegraph
  deriving DecidableEq, Repr

namespace ArtifactKind

def all : List ArtifactKind := [.resultFence, .inlineResultFence, .image, .planLink, .flamegraph]

def planLinkLabel : Text := "**Dalibo Visualization:**"

/-- An older label that is still recognised and no longer written. -/
def shortPlanLinkLabel : Text := "[Dalibo]"

def flamegraphLabel : Text := "![PostgreSQL Query Flamegraph]"

/-- A line that holds nothing but an image whose name ends in `.svg`. -/
def isSvgImage (text : Text) : Bool :=
  match (Text.after? "![" text).bind fun rest =>
      if ".svg)".toList.isSuffixOf (rest.map Fence.fold) then some (rest.take (rest.length - 5))
      else none with
  | some inner => Text.occursIn "](" inner && !inner.contains '\n'
  | none => false

/-- Whether an artifact of this kind begins with the line. -/
def opens (kind : ArtifactKind) (line : Line) : Bool :=
  match kind with
  | .resultFence => Fence.opensResult line
  | .inlineResultFence => Fence.opensInlineResult line
  | .image => isSvgImage line.stripTerminator
  | .planLink =>
    planLinkLabel.isPrefixOf line.stripTerminator ||
      shortPlanLinkLabel.isPrefixOf line.stripTerminator
  | .flamegraph => flamegraphLabel.isPrefixOf line.stripTerminator

def isFenced : ArtifactKind → Bool
  | .resultFence | .inlineResultFence => true
  | _ => false

def describe : ArtifactKind → Text
  | .resultFence => "RESULT block"
  | .inlineResultFence => "ruby RESULT block"
  | .image => "image"
  | .planLink => "plan link"
  | .flamegraph => "flamegraph"

end ArtifactKind

/-- The lines of an artifact and those after it. It is incomplete if the lines ended before
its closing fence. -/
structure ArtifactBody where
  lines : List Line
  complete : Bool
  rest : List Line
  deriving DecidableEq, Repr

/-- Takes a fenced body up to and with the first closing fence. -/
def ArtifactBody.fenced (first : Line) (rest : List Line) : ArtifactBody :=
  let inside := rest.takeWhile fun line => !Fence.isClose line
  match rest.dropWhile fun line => !Fence.isClose line with
  | [] => ⟨first :: inside, false, []⟩
  | close :: rest => ⟨first :: inside ++ [close], true, rest⟩

/-- Takes the artifact that begins with the first of the lines. -/
def ArtifactKind.takeBody (kind : ArtifactKind) : List Line → ArtifactBody
  | [] => ⟨[], false, []⟩
  | first :: rest =>
    match kind with
    | .resultFence | .inlineResultFence => .fenced first rest
    | .image => ⟨[first], true, rest⟩
    | .planLink | .flamegraph =>
      ⟨first :: rest.takeWhile (fun line => line.isBlank || kind.opens line), true,
        rest.dropWhile fun line => line.isBlank || kind.opens line⟩

/-- Taking an artifact neither loses nor moves a line. -/
theorem ArtifactKind.takeBody_append (kind : ArtifactKind) (lines : List Line) :
    (kind.takeBody lines).lines ++ (kind.takeBody lines).rest = lines := by
  cases lines with
  | nil => rfl
  | cons first rest =>
    have fenced : (ArtifactBody.fenced first rest).lines ++ (ArtifactBody.fenced first rest).rest =
        first :: rest := by
      have whole := List.takeWhile_append_dropWhile
        (p := fun line => !Fence.isClose line) (l := rest)
      unfold ArtifactBody.fenced
      split
      · rename_i nothing
        rw [nothing, List.append_nil] at whole
        simp [whole]
      · rename_i close more shape
        rw [shape] at whole
        simp [whole]
    cases kind <;> simp [ArtifactKind.takeBody, fenced]

/-- The artifacts that a block owns. -/
structure ArtifactPlan where
  /-- The one whose presence keeps the block from running again. -/
  primary : ArtifactKind
  /-- Those that may follow, in the order they are written. -/
  secondaries : List ArtifactKind := []
  /-- Results are written into the block itself. -/
  inline : Bool := false
  /-- The primary artifact is renewed by every pass. -/
  autoReplace : Bool := false
  /-- The block runs but writes nothing. -/
  hidden : Bool := false
  deriving DecidableEq, Repr

namespace ArtifactPlan

/-- The plan of a query block that shows its rows, its plan or both. A failure report takes
the place of rows that are not shown. -/
def structuredPlan (config : BlockConfig) : ArtifactPlan :=
  let visuals := (if config.explain then [ArtifactKind.planLink] else []) ++
    (if config.flamegraph then [ArtifactKind.flamegraph] else [])
  if config.showResult then { primary := .resultFence, secondaries := visuals }
  else match visuals with
    | [] => { primary := .resultFence, autoReplace := true }
    | first :: more =>
      { primary := first, secondaries := more ++ [.resultFence], autoReplace := true }

def isVisualized (config : BlockConfig) (kind : ResultKind) : Bool :=
  kind == .structuredPlan && (config.explain || config.flamegraph)

def forBlock (config : BlockConfig) (kind : ResultKind) : ArtifactPlan :=
  if !config.showResult && !isVisualized config kind then
    match kind with
    | .image => { primary := .image, hidden := true }
    | .inlineAnnotated => { primary := .inlineResultFence, inline := true, hidden := true }
    | .plainText | .structuredPlan => { primary := .resultFence, hidden := true }
  else match kind with
    | .plainText => { primary := .resultFence }
    | .image => { primary := .image, secondaries := [.resultFence] }
    | .inlineAnnotated => { primary := .inlineResultFence, inline := true }
    | .structuredPlan => structuredPlan config

end ArtifactPlan
end Runbook
