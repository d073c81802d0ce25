import Runbook.Text.Blank

/-! Lines. A line keeps the newline that ends it, so a text is exactly the concatenation
of its lines; only the last one may lack its newline. -/
namespace Runbook

abbrev Line := Text

namespace Text

/-- Cuts after every newline. -/
def lines : Text → List Line
  | [] => []
  | c :: rest =>
    if c = '\n' then [c] :: lines rest
    else match lines rest with
      | [] => [[c]]
      | line :: more => (c :: line) :: more

/-- The lines without what ends them: a newline and a carriage return right before it. -/
def rows (text : Text) : List Text :=
  (lines text).map fun line =>
    match before? ['\n'] line with
    | some body => (before? ['\r'] body).getD body
    | none => line

@[simp] theorem lines_flatten (text : Text) : (lines text).flatten = text := by
  induction text with
  | nil => rfl
  | cons c rest ih =>
    unfold lines
    split
    · simp [ih]
    · split
      · rename_i none
        rw [none] at ih
        simp at ih
        simp [← ih]
      · rename_i line more some
        rw [some] at ih
        simp at ih
        simp [← ih]

end Text

namespace Line

def isBlank (line : Line) : Bool := Text.isBlankText line

/-- Drops every newline and carriage return at the end. -/
def stripTerminator (line : Line) : Text :=
  (line.reverse.dropWhile fun c => c == '\n' || c == '\r').reverse

end Line
end Runbook
