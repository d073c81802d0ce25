import Runbook.Text.Line

/-! Result annotations inside a source text: comment lines with output or an exception,
and value markers that have been filled in. -/
namespace Runbook.Annotation

def outputMark : Text := "# >>"
def exceptionMark : Text := "# ~>"

def isResultLine (line : Line) : Bool :=
  outputMark.isPrefixOf (Text.trimStart line) || exceptionMark.isPrefixOf (Text.trimStart line)

/-- A comment sign, an arrow and a value, with any white space between them. -/
def startsFilledMarker : Text → Bool
  | '#' :: rest =>
    match Text.after? "=>" (Text.trimStart rest) with
    | some value => !Text.isBlankText value
    | none => false
  | _ => false

def hasFilledMarker : Text → Bool
  | [] => false
  | c :: rest => startsFilledMarker (c :: rest) || hasFilledMarker rest

def isAnnotated (content : Text) : Bool :=
  (Text.rows content).any fun row => isResultLine row || hasFilledMarker row

/-- The source without its result lines. Filled markers stay for the interpreter to renew. -/
def strip (content : Text) : Text :=
  ((Text.lines content).filter fun line => !isResultLine line).flatten

/-- Each row of a diagnostic as an exception line. -/
def exceptionLines (diagnostic : Text) : Text :=
  ((Text.rows diagnostic).map fun row => exceptionMark ++ ' ' :: row ++ ['\n']).flatten

end Runbook.Annotation
