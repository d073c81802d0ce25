import Runbook.Yaml.Source

/-! Scalars as they are written: plain, in quotes, or as a block of lines. A line break
inside a plain or quoted scalar reads as a space, and further ones as themselves. -/
namespace Runbook.Yaml

inductive Style
  | plain
  | quoted
  /-- A block that keeps its line breaks. -/
  | literal
  | folded
  deriving DecidableEq, Repr

/-- White space between two parts of a scalar, blanks at the starts of lines left out. -/
structure Gap where
  blanks : Text := []
  breaks : Text := []
  source : Source
  deriving DecidableEq, Repr

namespace Gap

/-- Reads a gap. After a line break, no tab may stand before the column `indent`. -/
def readFrom (indent : Nat) (broken : Bool) (blanks breaks : Text) (line column : Nat) :
    Text → Option Gap
  | [] => some ⟨blanks, breaks, ⟨[], line, column⟩⟩
  | c :: rest =>
    if isGap c then
      if !broken then readFrom indent broken (blanks ++ [c]) breaks line (column + 1) rest
      else if c = '\t' && column < indent then none
      else readFrom indent broken blanks breaks line (column + 1) rest
    else if isBreak c then readFrom indent true blanks (breaks ++ [c]) (line + 1) 0 rest
    else some ⟨blanks, breaks, ⟨c :: rest, line, column⟩⟩

def read? (indent : Nat) (broken : Bool) (source : Source) : Option Gap :=
  readFrom indent broken [] [] source.line source.column source.rest

/-- What line breaks read as. -/
def fold : Text → Text
  | ['\n'] => [' ']
  | '\n' :: more => more
  | breaks => breaks

def text (gap : Gap) : Text := if gap.breaks.isEmpty then gap.blanks else fold gap.breaks

end Gap

/-- A scalar that has been read. -/
structure Written where
  value : Text
  /-- It ended at the start of a line. -/
  atLineStart : Bool := false
  source : Source
  deriving DecidableEq, Repr

namespace Plain

def endsInFlow (c : Char) : Bool := ",[]\x7b\x7d".toList.contains c

/-- The characters up to the next gap or to what ends a plain scalar. In brackets a colon
must not touch an indicator. -/
def run? (inFlow : Bool) : Text → Option Text
  | [] => some []
  | c :: rest =>
    if isGap c || isBreak c then some []
    else if inFlow && c = ':' && Source.holds ",?[]\x7b\x7d".toList.contains rest.head? then none
    else if c = ':' && ({ rest } : Source).wordEndsAt 0 then some []
    else if inFlow && endsInFlow c then some []
    else (run? inFlow rest).map (c :: ·)

/-- Reads on after `value`, which a gap follows that reads as `pending`. -/
def readFrom (inFlow : Bool) (indent : Nat) (value pending : Text) (atLineStart : Bool)
    (source : Source) : Nat → Option Written
  | 0 => none
  | fuel + 1 =>
    if source.isAtDocumentMark || source.isAt '#' then some ⟨value, atLineStart, source⟩
    else match run? inFlow source.rest with
      | none => none
      | some run =>
        let value := if run.isEmpty then value else value ++ pending ++ run
        let pending := if run.isEmpty then pending else []
        let atLineStart := atLineStart && run.isEmpty
        let source := source.skip run.length
        if source.isAtEnd || !source.wordEndsAt 0 then some ⟨value, atLineStart, source⟩
        else match Gap.read? indent atLineStart source with
          | none => none
          | some gap =>
            let atLineStart := atLineStart || !gap.breaks.isEmpty
            if !inFlow && gap.source.column < indent then some ⟨value, atLineStart, gap.source⟩
            else readFrom inFlow indent value (pending ++ gap.text) atLineStart gap.source fuel

def read? (inFlow : Bool) (indent : Nat) (source : Source) : Option Written :=
  readFrom inFlow indent [] [] false source (source.rest.length + 1)

end Plain

namespace Quoted

inductive Escape
  | char (c : Char)
  /-- The number of a character in so many hexadecimal digits. -/
  | code (digits : Nat)

def escape? : Char → Option Escape
  | '0' => some (.char '\x00')
  | 'a' => some (.char '\x07')
  | 'b' => some (.char '\x08')
  | 't' | '\t' => some (.char '\t')
  | 'n' => some (.char '\n')
  | 'v' => some (.char '\x0B')
  | 'f' => some (.char '\x0C')
  | 'r' => some (.char '\r')
  | 'e' => some (.char '\x1B')
  | ' ' => some (.char ' ')
  | '"' => some (.char '"')
  | '/' => some (.char '/')
  | '\\' => some (.char '\\')
  | 'N' => some (.char '\u0085')
  | '_' => some (.char '\u00A0')
  | 'L' => some (.char '\u2028')
  | 'P' => some (.char '\u2029')
  | 'x' => some (.code 2)
  | 'u' => some (.code 4)
  | 'U' => some (.code 8)
  | _ => none

def hexDigit? (c : Char) : Option Nat :=
  if c.isDigit then some (c.toNat - '0'.toNat)
  else if 'a' ≤ c ∧ c ≤ 'f' then some (c.toNat - 'a'.toNat + 10)
  else if 'A' ≤ c ∧ c ≤ 'F' then some (c.toNat - 'A'.toNat + 10)
  else none

def isCharCode (n : Nat) : Bool := n < 0xD800 || (0xDFFF < n && n ≤ 0x10FFFF)

/-- A part of a quoted scalar without gaps. -/
structure Run where
  value : Text := []
  /-- How many characters it is written with. -/
  length : Nat := 0
  /-- A backslash before a line break ends it. -/
  joined : Bool := false

def Run.push (value : Text) (length : Nat) (run : Run) : Run :=
  { run with value := value ++ run.value, length := run.length + length }

/-- Reads up to the next gap or the closing quote. `owed` is a code whose digits are being
read: how many are left and their value so far. -/
def run? (double : Bool) (owed : Option (Nat × Nat)) : Text → Option Run
  | [] => if owed.isSome then none else some {}
  | c :: rest =>
    match owed with
    | some (left, code) =>
      (hexDigit? c).bind fun digit =>
        let code := code * 16 + digit
        if 1 < left then (run? double (some (left - 1, code)) rest).map (·.push [] 1)
        else if isCharCode code then (run? double none rest).map (·.push [Char.ofNat code] 1)
        else none
    | none =>
      if isGap c || isBreak c then some {}
      else if double then
        if c = '"' then some {}
        else if c = '\\' then
          match rest with
          | [] => none
          | e :: rest =>
            if isBreak e then some { length := 1, joined := true }
            else match escape? e with
              | none => none
              | some (.char value) => (run? double none rest).map (·.push [value] 2)
              | some (.code digits) => (run? double (some (digits, 0)) rest).map (·.push [] 2)
        else (run? double none rest).map (·.push [c] 1)
      else if c = '\x27' then
        match rest with
        | '\x27' :: rest => (run? double none rest).map (·.push [c] 2)
        | _ => some {}
      else (run? double none rest).map (·.push [c] 1)

def readFrom (double : Bool) (value : Text) (source : Source) : Nat → Option Written
  | 0 => none
  | fuel + 1 =>
    if source.isAtDocumentMark || source.isAtEnd then none
    else match run? double none source.rest with
      | none => none
      | some run =>
        let value := value ++ run.value
        let source := source.skip run.length
        let source := if run.joined then source.skipBreak else source
        if source.isAt (if double then '"' else '\x27') then
          some { value, source := source.skip 1 }
        else match Gap.read? 0 run.joined source with
          | none => none
          | some gap =>
            readFrom double (value ++ if run.joined then gap.breaks else gap.text) gap.source fuel

/-- Reads a scalar after its opening quote. -/
def read? (double : Bool) (source : Source) : Option Written :=
  readFrom double [] source (source.rest.length + 1)

end Quoted

namespace Block

/-- What becomes of the line breaks at the end. -/
inductive Chomping
  | strip | clip | keep
  deriving DecidableEq, Repr

structure Header where
  chomping : Chomping := .clip
  /-- Columns by which the lines are indented, if the header says it. -/
  increment : Option Nat := none
  source : Source

def chomping? (source : Source) : Option Chomping :=
  match source.peek with
  | some '+' => some .keep
  | some '-' => some .strip
  | _ => none

/-- A digit from one to nine, or none at all. -/
def increment? (source : Source) : Option (Option Nat) :=
  match source.peek with
  | some c =>
    if c = '0' then none
    else if c.isDigit then some (some (c.toNat - '0'.toNat))
    else some none
  | none => some none

/-- The two parts of a header stand in either order. -/
def Header.read? (source : Source) : Option Header :=
  match chomping? source with
  | some chomping =>
    (increment? (source.skip 1)).map fun increment =>
      { chomping, increment, source := source.skip (if increment.isSome then 2 else 1) }
  | none =>
    (increment? source).map fun increment =>
      match increment with
      | none => { source }
      | some _ =>
        match chomping? (source.skip 1) with
        | some chomping => { chomping, increment, source := source.skip 2 }
        | none => { increment, source := source.skip 1 }

/-- Passes the indentation of the next line that is not empty, and the empty lines before
it. Answers the deepest column reached and the line breaks. An indentation of zero is one
that is yet to be found. -/
def emptyLines (indent deepest : Nat) (breaks : Text) (line column : Nat) :
    Text → Option (Nat × Text × Source)
  | [] => some (max deepest column, breaks, ⟨[], line, column⟩)
  | c :: rest =>
    let inside := indent = 0 || column < indent
    if c = ' ' && inside then emptyLines indent deepest breaks line (column + 1) rest
    else if c = '\t' && inside then none
    else if isBreak c then
      emptyLines indent (max deepest column) (breaks ++ [c]) (line + 1) 0 rest
    else some (max deepest column, breaks, ⟨c :: rest, line, column⟩)

/-- Reads lines with this indentation. `ended` is the break that ended the line before, and
`breaks` are those of the empty lines since; `indented` says that the line before began with
white space. Answers the value and the breaks after it. -/
def lines (literal : Bool) (indent : Nat) (value ended breaks : Text) (indented : Bool)
    (source : Source) : Nat → Option (Text × Text × Text × Source)
  | 0 => none
  | fuel + 1 =>
    if source.column ≠ indent || source.isAtEnd then some (value, ended, breaks, source)
    else
      let startsBlank := Source.holds isGap source.peek
      let between :=
        if !literal && ended == ['\n'] && !indented && !startsBlank then
          (if breaks.isEmpty then [' '] else []) ++ breaks
        else ended ++ breaks
      let (text, source) := source.span fun c => !isBreak c
      let ended := source.rest.take 1
      let source := if source.isAtEnd then source else source.skipBreak
      match emptyLines indent 0 [] source.line source.column source.rest with
      | none => none
      | some (_, breaks, source) =>
        lines literal indent (value ++ between ++ text) ended breaks startsBlank source fuel

/-- Reads a block after its indicator. Its lines are indented by more than `parent`, the
indentation around it, which is negative outside of all collections. -/
def read? (literal : Bool) (parent : Int) (source : Source) : Option Written :=
  (Header.read? source).bind fun header =>
    header.source.skipLineEnd?.bind fun source =>
      let given := match header.increment with
        | some increment => (if 0 ≤ parent then parent.toNat else 0) + increment
        | none => 0
      (emptyLines given 0 [] source.line source.column source.rest).bind
        fun (deepest, breaks, source) =>
          let indent := if given = 0 then max deepest (max (parent + 1).toNat 1) else given
          (lines literal indent [] [] breaks false source (source.rest.length + 1)).map
            fun (value, ended, breaks, source) =>
              { value := value ++ (if header.chomping = .strip then [] else ended) ++
                  (if header.chomping = .keep then breaks else [])
                source }

end Block
end Runbook.Yaml
