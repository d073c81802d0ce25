import Runbook.Yaml.Scalar
import Runbook.Yaml.Tag

/-! Tokens of a YAML text. Indentation is turned into tokens that open and close block
collections. A key is only told from a value by the colon after it, so the place where it
began is remembered and its token is put in there later. -/
namespace Runbook.Yaml

inductive Token
  | directive (directive : Directive)
  | documentStart
  | documentEnd
  | blockSequenceStart
  | blockMappingStart
  | blockEnd
  | flowSequenceStart
  | flowSequenceEnd
  | flowMappingStart
  | flowMappingEnd
  | blockEntry
  | flowEntry
  | key
  | value
  | alias (name : Text)
  | anchor (name : Text)
  | tag (tag : WrittenTag)
  | scalar (style : Style) (value : Text)
  deriving DecidableEq, Repr

/-- A place where a key without its own indicator may have begun. -/
structure PossibleKey where
  /-- Nothing but a key can stand there. -/
  required : Bool
  /-- How many tokens precede it. -/
  position : Nat
  line : Nat
  column : Nat
  deriving DecidableEq, Repr

structure Lexer where
  source : Source
  /-- The last token first. -/
  written : List Token := []
  /-- The column of the innermost block collection, and of those around it. -/
  indent : Int := -1
  outer : List Int := []
  /-- How many brackets are open. -/
  flow : Nat := 0
  keyAllowed : Bool := true
  /-- A possible key for each open bracket, and one outside of all. -/
  keys : List (Option PossibleKey) := [none]

namespace Lexer

def inFlow (lexer : Lexer) : Bool := lexer.flow != 0

def put (token : Token) (lexer : Lexer) : Lexer := { lexer with written := token :: lexer.written }

def insert (position : Nat) (token : Token) (lexer : Lexer) : Lexer :=
  { lexer with written := lexer.written.insertIdx (lexer.written.length - position) token }

def skip (count : Nat) (lexer : Lexer) : Lexer := { lexer with source := lexer.source.skip count }

def key? (lexer : Lexer) : Option PossibleKey := (lexer.keys.head?).getD none

/-- A key ends on its line and within 1024 characters. A required one may not go on. -/
def dropStale? (lexer : Lexer) : Option Lexer :=
  let isStale (key : PossibleKey) : Bool :=
    key.line < lexer.source.line || key.column + 1024 < lexer.source.column
  if lexer.keys.any fun key => (key.map fun key => isStale key && key.required).getD false then none
  else some { lexer with keys := lexer.keys.map fun key => key.filter fun key => !isStale key }

/-- Gives up the innermost possible key, which must not be required. -/
def dropKey? (lexer : Lexer) : Option Lexer :=
  if (lexer.key?.map PossibleKey.required).getD false then none
  else some { lexer with keys := none :: lexer.keys.drop 1 }

/-- Remembers this place if a key may begin here. -/
def saveKey? (lexer : Lexer) : Option Lexer :=
  if lexer.keyAllowed then
    lexer.dropKey?.map fun lexer =>
      let key : PossibleKey :=
        { required := !lexer.inFlow && lexer.indent == lexer.source.column
          position := lexer.written.length
          line := lexer.source.line
          column := lexer.source.column }
      { lexer with keys := some key :: lexer.keys.drop 1 }
  else some lexer

def allowKey (allowed : Bool) (lexer : Lexer) : Lexer := { lexer with keyAllowed := allowed }

/-- Closes the block collections that are indented by more than `column`. -/
def unindent (column : Int) (lexer : Lexer) : Nat → Lexer
  | 0 => lexer
  | fuel + 1 =>
    if !lexer.inFlow && column < lexer.indent then
      unindent column
        { lexer.put .blockEnd with indent := lexer.outer.headD (-1), outer := lexer.outer.drop 1 }
        fuel
    else lexer

/-- Closes block collections. There are no more of them than columns to go back. -/
def closeTo (column : Int) (lexer : Lexer) : Lexer :=
  lexer.unindent column (lexer.outer.length + 1)

/-- Opens a block collection at `column` unless one is open there. Its token goes to
`position`, or to the end. -/
def openAt (column : Nat) (position : Option Nat) (token : Token) (lexer : Lexer) : Lexer :=
  if !lexer.inFlow && lexer.indent < column then
    let opened := { lexer with indent := column, outer := lexer.indent :: lexer.outer }
    match position with
    | some position => opened.insert position token
    | none => opened.put token
  else lexer

/-- Ends all block collections, as a directive or a document mark does. -/
def leaveBlocks? (lexer : Lexer) : Option Lexer :=
  (lexer.closeTo (-1)).dropKey?.map (allowKey false)

def documentMark? (token : Token) (lexer : Lexer) : Option Lexer :=
  lexer.leaveBlocks?.map fun lexer => (lexer.skip 3).put token

def openFlow? (token : Token) (lexer : Lexer) : Option Lexer :=
  lexer.saveKey?.map fun lexer =>
    let lexer := (lexer.skip 1).put token
    { lexer with flow := lexer.flow + 1, keys := none :: lexer.keys, keyAllowed := true }

def closeFlow? (token : Token) (lexer : Lexer) : Option Lexer :=
  lexer.dropKey?.map fun lexer =>
    let lexer := ((lexer.skip 1).put token).allowKey false
    if lexer.inFlow then { lexer with flow := lexer.flow - 1, keys := lexer.keys.drop 1 } else lexer

def flowEntry? (lexer : Lexer) : Option Lexer :=
  lexer.dropKey?.map fun lexer => ((lexer.skip 1).put .flowEntry).allowKey true

/-- Opens a block collection at an indicator, where one may begin. -/
def openHere? (token : Token) (lexer : Lexer) : Option Lexer :=
  if lexer.inFlow then some lexer
  else if lexer.keyAllowed then some (lexer.openAt lexer.source.column none token)
  else none

def blockEntry? (lexer : Lexer) : Option Lexer :=
  (lexer.openHere? .blockSequenceStart).bind fun lexer =>
    lexer.dropKey?.map fun lexer => ((lexer.skip 1).put .blockEntry).allowKey true

def keyIndicator? (lexer : Lexer) : Option Lexer :=
  (lexer.openHere? .blockMappingStart).bind fun lexer =>
    lexer.dropKey?.map fun lexer => ((lexer.skip 1).put .key).allowKey (!lexer.inFlow)

/-- A colon makes a key of what began at the remembered place, or has none before it. -/
def valueIndicator? (lexer : Lexer) : Option Lexer :=
  match lexer.key? with
  | some key =>
    let lexer := (lexer.insert key.position .key).openAt key.column (some key.position)
      .blockMappingStart
    let lexer := { lexer with keys := none :: lexer.keys.drop 1 }
    some (((lexer.skip 1).put .value).allowKey false)
  | none =>
    (lexer.openHere? .blockMappingStart).map fun lexer =>
      ((lexer.skip 1).put .value).allowKey (!lexer.inFlow)

/-- Reads something that may be a key. -/
def node? (read : Source → Option (Token × Source)) (lexer : Lexer) : Option Lexer :=
  lexer.saveKey?.bind fun lexer =>
    (read lexer.source).map fun (token, source) =>
      ({ lexer with source } : Lexer).put token |>.allowKey false

/-- A name after an indicator, up to white space or a character that cannot follow it. -/
def name? (token : Text → Token) (source : Source) : Option (Token × Source) :=
  let (name, source) := (source.skip 1).span isNameChar
  if name.isEmpty then none
  else if source.wordEndsAt 0 || Source.holds "?:,]\x7d%@\x60".toList.contains source.peek then
    some (token name, source)
  else none

def quoted? (double : Bool) (source : Source) : Option (Token × Source) :=
  (Quoted.read? double (source.skip 1)).map fun written =>
    (.scalar .quoted written.value, written.source)

def blockScalar? (literal : Bool) (lexer : Lexer) : Option Lexer :=
  lexer.dropKey?.bind fun lexer =>
    (Block.read? literal lexer.indent (lexer.source.skip 1)).map fun written =>
      let style := if literal then Style.literal else .folded
      ({ lexer with source := written.source, keyAllowed := true } : Lexer).put
        (.scalar style written.value)

/-- A plain scalar that goes on to the start of a line leaves room for a key there. -/
def plain? (lexer : Lexer) : Option Lexer :=
  lexer.saveKey?.bind fun lexer =>
    (Plain.read? lexer.inFlow (lexer.indent + 1).toNat lexer.source).map fun written =>
      ({ lexer with source := written.source, keyAllowed := written.atLineStart } : Lexer).put
        (.scalar .plain written.value)

/-- Characters that no plain scalar starts with. -/
def isIndicator (c : Char) : Bool := "-?:,[]\x7b\x7d#&*!|>'\"%@\x60".toList.contains c

/-- Whether a plain scalar may start here. Outside of brackets, an indicator of an entry, a
key or a value may if something follows it at once. -/
def startsPlain (lexer : Lexer) (c : Char) : Bool :=
  !isIndicator c && !isGap c && !isBreak c ||
    c == '-' && !Source.holds isGap (lexer.source.ahead 1) ||
    !lexer.inFlow && (c == '?' || c == ':') && !lexer.source.wordEndsAt 1

/-- Reads the token that starts with the next character. -/
def token? (lexer : Lexer) (c : Char) : Option Lexer :=
  let indicates := lexer.inFlow || lexer.source.wordEndsAt 1
  if lexer.source.column = 0 && c = '%' then
    lexer.leaveBlocks?.bind fun lexer =>
      (Directive.read? lexer.source).map fun (directive, source) =>
        ({ lexer with source } : Lexer).put (.directive directive)
  else if lexer.source.isAtMark Source.startMark then lexer.documentMark? .documentStart
  else if lexer.source.isAtMark Source.endMark then lexer.documentMark? .documentEnd
  else if c = '[' then lexer.openFlow? .flowSequenceStart
  else if c = '{' then lexer.openFlow? .flowMappingStart
  else if c = ']' then lexer.closeFlow? .flowSequenceEnd
  else if c = '}' then lexer.closeFlow? .flowMappingEnd
  else if c = ',' then lexer.flowEntry?
  else if c = '-' && lexer.source.wordEndsAt 1 then lexer.blockEntry?
  else if c = '?' && indicates then lexer.keyIndicator?
  else if c = ':' && indicates then lexer.valueIndicator?
  else if c = '*' then lexer.node? (name? .alias)
  else if c = '&' then lexer.node? (name? .anchor)
  else if c = '!' then
    lexer.node? fun source => (Tag.read? lexer.inFlow source).map fun (tag, source) => (.tag tag, source)
  else if c = '|' && !lexer.inFlow then lexer.blockScalar? true
  else if c = '>' && !lexer.inFlow then lexer.blockScalar? false
  else if c = '\x27' then lexer.node? (quoted? false)
  else if c = '"' then lexer.node? (quoted? true)
  else if lexer.startsPlain c then lexer.plain?
  else none

/-- Ends the text as if it were at the start of a line. -/
def finish? (lexer : Lexer) : Option (List Token) :=
  (lexer.closeTo (-1)).dropKey?.map fun lexer => lexer.written.reverse

/-- Reads token by token. Each takes at least one character. -/
def run? (lexer : Lexer) : Nat → Option (List Token)
  | 0 => none
  | fuel + 1 =>
    let (keyAllowed, source) := lexer.source.skipToToken lexer.inFlow lexer.keyAllowed
      (lexer.source.rest.length + 1)
    ({ lexer with source, keyAllowed } : Lexer).dropStale?.bind fun lexer =>
      let lexer := lexer.closeTo lexer.source.column
      match lexer.source.peek with
      | none => lexer.finish?
      | some c => (lexer.token? c).bind fun lexer => lexer.run? fuel

end Lexer

/-- The tokens of a text, if it is made of printable characters and well formed. -/
def Token.ofText? (text : Text) : Option (List Token) :=
  if text.all isPrintable then Lexer.run? { source := .ofText text } (text.length + 1) else none

end Runbook.Yaml
