import Runbook.Text

/-! The characters of a YAML text that are still to be read, and where they stand. Line
breaks are brought to one form first: a carriage return with or without a newline and the
next-line character all count as a newline. -/
namespace Runbook.Yaml

/-- Brings line breaks to one form. The two Unicode separators stay as they are. -/
def normalized : Text → Text
  | [] => []
  | '\r' :: '\n' :: rest => '\n' :: normalized rest
  | c :: rest => (if c = '\r' || c = '\u0085' then '\n' else c) :: normalized rest

/-- Characters that may stand in a YAML text at all. -/
def isPrintable (c : Char) : Bool :=
  let n := c.toNat
  n == 0x09 || n == 0x0A || n == 0x0D || (0x20 ≤ n && n ≤ 0x7E) || n == 0x85 ||
    (0xA0 ≤ n && n ≤ 0xD7FF) || (0xE000 ≤ n && n ≤ 0xFFFD) || 0x10000 ≤ n

def isBreak (c : Char) : Bool := c == '\n' || c == '\u2028' || c == '\u2029'

def isGap (c : Char) : Bool := c == ' ' || c == '\t'

/-- Letters, digits, underscores and hyphens: what names are made of. -/
def isNameChar (c : Char) : Bool := c.isAlphanum || c == '_' || c == '-'

structure Source where
  rest : Text
  line : Nat := 0
  column : Nat := 0
  deriving DecidableEq, Repr

namespace Source

/-- A byte order mark at the very start takes up a column and means nothing. -/
def ofText (text : Text) : Source :=
  match normalized text with
  | '\uFEFF' :: rest => { rest, column := 1 }
  | rest => { rest }

/-- The character so many places ahead, if the text goes on that far. -/
def ahead (source : Source) (distance : Nat) : Option Char := source.rest[distance]?

def peek (source : Source) : Option Char := source.ahead 0

/-- Passes characters of the current line. -/
def skip (source : Source) (count : Nat) : Source :=
  { source with rest := source.rest.drop count, column := source.column + count }

def span (accepts : Char → Bool) (source : Source) : Text × Source :=
  (source.rest.takeWhile accepts, source.skip (source.rest.takeWhile accepts).length)

/-- Passes a line break. -/
def skipBreak (source : Source) : Source :=
  { rest := source.rest.drop 1, line := source.line + 1, column := 0 }

def isAtEnd (source : Source) : Bool := source.rest.isEmpty

def holds (test : Char → Bool) (c : Option Char) : Bool := (c.map test).getD false

/-- Whether a line ends so many places ahead. -/
def lineEndsAt (source : Source) (distance : Nat) : Bool :=
  (source.ahead distance).isNone || holds isBreak (source.ahead distance)

/-- Whether a word cannot go on so many places ahead. -/
def wordEndsAt (source : Source) (distance : Nat) : Bool :=
  source.lineEndsAt distance || holds isGap (source.ahead distance)

def isAt (source : Source) (c : Char) : Bool := source.peek == some c

/-- Whether the line consists of this mark, or starts with it and white space. -/
def isAtMark (source : Source) (mark : Text) : Bool :=
  source.column == 0 && mark.isPrefixOf source.rest && source.wordEndsAt mark.length

def startMark : Text := "---"
def endMark : Text := "..."

def isAtDocumentMark (source : Source) : Bool :=
  source.isAtMark startMark || source.isAtMark endMark

def skipComment (source : Source) : Source :=
  if source.isAt '#' then (source.span fun c => !isBreak c).2 else source

/-- Passes white space and a comment up to the end of the line, and the line break. -/
def skipLineEnd? (source : Source) : Option Source :=
  let source := (source.span isGap).2.skipComment
  if source.isAtEnd then some source
  else if source.lineEndsAt 0 then some source.skipBreak
  else none

/-- Passes white space, comments and line breaks between tokens. Tabs count as white space
only where no key may begin. A line break makes room for a key, outside of brackets. -/
def skipToToken (inFlow : Bool) (keyAllowed : Bool) (source : Source) : Nat → Bool × Source
  | 0 => (keyAllowed, source)
  | fuel + 1 =>
    let spaced := (source.span fun c => c == ' ' || (c == '\t' && (inFlow || !keyAllowed))).2
    let spaced := spaced.skipComment
    if !spaced.isAtEnd && spaced.lineEndsAt 0 then
      skipToToken inFlow (keyAllowed || !inFlow) spaced.skipBreak fuel
    else (keyAllowed, spaced)

end Source
end Runbook.Yaml
