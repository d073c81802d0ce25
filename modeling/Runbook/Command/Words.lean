import Runbook.Text

/-! Words of a command line. `quote` writes any text so that `split` reads it back as one
word; `split` knows blanks, both kinds of quotes, backslashes and comments. -/
namespace Runbook.Command

/-- Characters that a word cannot hold as they are. -/
def isSpecial (c : Char) : Bool := "\n'|&;<>()$`\\\" \t*?[#\u02DC=%".toList.contains c

/-- A single quote inside single quotes: close them, escape it, open them again. -/
def quotedChar (c : Char) : Text := if c = '\x27' then "'\\''" else [c]

def quote (word : Text) : Text :=
  if word.isEmpty || word.any isSpecial then '\x27' :: word.flatMap quotedChar ++ ['\x27']
  else word

/-- Where reading stands: between words, or in a word in one of the ways to write it. -/
inductive WordState
  | delimiter
  | backslash
  | unquoted
  | unquotedBackslash
  | singleQuoted
  | doubleQuoted
  | doubleQuotedBackslash
  | comment
  deriving DecidableEq, Repr

def isDelimiter (c : Char) : Bool := c == '\t' || c == ' ' || c == '\n'

/-- Reads on with the characters of the current word, or answers none if a quote is left
open. -/
def splitFrom : WordState → (word : Text) → Text → Option (List Text)
  | .delimiter, _, [] => some []
  | .comment, _, [] => some []
  | .backslash, word, [] => some [word ++ ['\\']]
  | .unquotedBackslash, word, [] => some [word ++ ['\\']]
  | .unquoted, word, [] => some [word]
  | .singleQuoted, _, [] => none
  | .doubleQuoted, _, [] => none
  | .doubleQuotedBackslash, _, [] => none
  | .delimiter, word, c :: rest =>
    if c = '\x27' then splitFrom .singleQuoted word rest
    else if c = '"' then splitFrom .doubleQuoted word rest
    else if c = '\\' then splitFrom .backslash word rest
    else if isDelimiter c then splitFrom .delimiter word rest
    else if c = '#' then splitFrom .comment word rest
    else splitFrom .unquoted (word ++ [c]) rest
  | .backslash, word, c :: rest =>
    if c = '\n' then splitFrom .delimiter word rest
    else splitFrom .unquoted (word ++ [c]) rest
  | .unquoted, word, c :: rest =>
    if c = '\x27' then splitFrom .singleQuoted word rest
    else if c = '"' then splitFrom .doubleQuoted word rest
    else if c = '\\' then splitFrom .unquotedBackslash word rest
    else if isDelimiter c then (splitFrom .delimiter [] rest).map (word :: ·)
    else splitFrom .unquoted (word ++ [c]) rest
  | .unquotedBackslash, word, c :: rest =>
    if c = '\n' then splitFrom .unquoted word rest
    else splitFrom .unquoted (word ++ [c]) rest
  | .singleQuoted, word, c :: rest =>
    if c = '\x27' then splitFrom .unquoted word rest
    else splitFrom .singleQuoted (word ++ [c]) rest
  | .doubleQuoted, word, c :: rest =>
    if c = '"' then splitFrom .unquoted word rest
    else if c = '\\' then splitFrom .doubleQuotedBackslash word rest
    else splitFrom .doubleQuoted (word ++ [c]) rest
  | .doubleQuotedBackslash, word, c :: rest =>
    if c = '\n' then splitFrom .doubleQuoted word rest
    else if c = '$' || c = '\x60' || c = '"' || c = '\\' then
      splitFrom .doubleQuoted (word ++ [c]) rest
    else splitFrom .doubleQuoted (word ++ ['\\', c]) rest
  | .comment, word, c :: rest =>
    if c = '\n' then splitFrom .delimiter word rest else splitFrom .comment word rest

def split (command : Text) : Option (List Text) := splitFrom .delimiter [] command

end Runbook.Command
