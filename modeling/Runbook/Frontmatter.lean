import Runbook.Frontmatter.Section
import Runbook.Text.Line

/-! The frontmatter of a document: the lines between a first line of three dashes and the
next such line. -/
namespace Runbook

structure Frontmatter where
  /-- All of its lines, with both delimiters. -/
  lines : List Line
  /-- What stands between the delimiters, unless the second one is missing. -/
  yaml : Option Text
  rest : List Line
  deriving DecidableEq, Repr

namespace Frontmatter

def delimiter : Text := "---"

def isDelimiter (line : Line) : Bool := Text.trim line == delimiter

/-- Without a closing delimiter the frontmatter takes all lines. -/
def split : List Line → Frontmatter
  | [] => ⟨[], none, []⟩
  | first :: following =>
    if isDelimiter first then
      let inside := following.takeWhile fun line => !isDelimiter line
      match following.dropWhile fun line => !isDelimiter line with
      | [] => ⟨first :: inside, none, []⟩
      | close :: rest => ⟨first :: inside ++ [close], some inside.flatten, rest⟩
    else ⟨[], none, first :: following⟩

/-- What the frontmatter sets. One that is not in order sets nothing. -/
def defaults (frontmatter : Frontmatter) : Defaults :=
  (frontmatter.yaml.bind defaults?).getD .none

end Frontmatter
end Runbook
