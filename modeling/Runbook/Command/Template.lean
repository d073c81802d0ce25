import Runbook.Text.Blank
import Runbook.Command.Words

/-! Command templates. A name in braces stands for a value, which is quoted when it is put
in; a doubled brace stands for a brace. Positions count bytes of UTF-8. -/
namespace Runbook.Command

inductive TemplateError
  | undefinedPlaceholder (name : Text) (position : Nat)
  | unmatchedBrace (position : Nat)
  | unsplittable (command : Text)
  deriving DecidableEq, Repr

def TemplateError.message : TemplateError → Text
  | .undefinedPlaceholder name position =>
    "undefined placeholder '".toList ++ name ++ "' at position ".toList ++
      Text.ofNat position ++ " in command template".toList
  | .unmatchedBrace position =>
    "unmatched '\x7b' at position ".toList ++ Text.ofNat position ++
      " in command template".toList
  | .unsplittable command =>
    "command '".toList ++ command ++
      "' cannot be split into words: missing closing quote".toList

/-- The values that placeholders may name. -/
abbrev Values := Text → Option Text

/-- A placeholder's name and what follows its closing brace. -/
def placeholder? (text : Text) : Option (Text × Text) :=
  match text.dropWhile (· != '}') with
  | [] => none
  | _ :: rest => some (text.takeWhile (· != '}'), rest)

theorem length_placeholder? {text name rest : Text} (h : placeholder? text = some (name, rest)) :
    rest.length < text.length := by
  have bound : (text.dropWhile (· != '}')).length ≤ text.length :=
    (List.dropWhile_sublist _).length_le
  unfold placeholder? at h
  split at h
  · cases h
  · rename_i close more shape
    cases h
    rw [shape] at bound
    simp only [List.length_cons] at bound
    omega

def renderFrom (values : Values) (position : Nat) : Text → Except TemplateError Text
  | [] => .ok []
  | '{' :: '{' :: rest => ('{' :: ·) <$> renderFrom values (position + 2) rest
  | '{' :: rest =>
    match _found : placeholder? rest with
    | none => .error (.unmatchedBrace position)
    | some (name, after) =>
      match values (Text.trim name) with
      | none => .error (.undefinedPlaceholder (Text.trim name) position)
      | some value =>
        (quote value ++ ·) <$>
          renderFrom values (position + Text.utf8Length name + 2) after
  | '}' :: '}' :: rest => ('}' :: ·) <$> renderFrom values (position + 2) rest
  | c :: rest => (c :: ·) <$> renderFrom values (position + c.utf8Size) rest
termination_by template => template.length
decreasing_by
  all_goals simp only [List.length_cons]
  all_goals try omega
  have := length_placeholder? _found
  omega

def render (template : Text) (values : Values) : Except TemplateError Text :=
  renderFrom values 0 template

/-- The arguments of a template's command, its program first. -/
def arguments (template : Text) (values : Values) : Except TemplateError (List Text) := do
  let command ← render template values
  match split command with
  | some words => .ok words
  | none => .error (.unsplittable command)

end Runbook.Command
