import Runbook.Text.Line
import Runbook.Text.Word
import Runbook.Text.Casing

/-! Fence lines. Three backticks and a tag open a code block, three backticks alone close
it, and a `ruby RESULT` fence opens a result that is only copied. -/
namespace Runbook.Fence

def marker : Text := "```"

/-- The tag is in lower case and not yet replaced by what it is an alias of. -/
structure Header where
  tag : Text
  rawOptions : Text
  deriving DecidableEq, Repr

/-- The text after the tag: empty, or set apart from it by white space. -/
def rawOptions? : Text → Option Text
  | [] => some []
  | c :: rest =>
    if Text.isBlank c then
      let options := rest.dropWhile Text.isBlank
      if options.contains '\n' then none else some options
    else none

def Header.parse? (line : Line) : Option Header :=
  match Text.after? marker line.stripTerminator with
  | none => none
  | some text =>
    let tag := text.takeWhile Text.isWord
    if tag.isEmpty then none
    else (rawOptions? (text.dropWhile Text.isWord)).map fun options => ⟨Text.lower tag, options⟩

def isClose (line : Line) : Bool := Text.trim line == marker

/-- Simple case folding as far as it reaches a letter of the words fences are told by:
besides the capitals, the long s folds to `s`. -/
def fold (c : Char) : Char := if c = '\u017F' then 's' else c.toLower

/-- Opens a plain result: three backticks and `RESULT` in any case. -/
def opensResult (line : Line) : Bool :=
  line.stripTerminator.map fold == marker ++ "result".toList

/-- Opens a result that stands in for an annotated ruby block. -/
def opensInlineResult (line : Line) : Bool :=
  match Text.after? (marker ++ "ruby".toList) (line.stripTerminator.map fold) with
  | some (c :: rest) =>
    Text.isBlank c && rest.dropWhile Text.isBlank == "result".toList
  | _ => false

end Runbook.Fence
