import Runbook.Text.Utf8
import Runbook.Yaml.Source

/-! Tags as they are written: a handle and a suffix, or a whole address in angle brackets.
Handles stand for what directives say. Escapes may spell any bytes, so tags are bytes. -/
namespace Runbook.Yaml

abbrev Tag := Bytes

structure WrittenTag where
  /-- Empty for a tag that stands for itself. -/
  handle : Text
  suffix : Bytes
  deriving DecidableEq, Repr

/-- What a handle stands for. -/
structure TagDirective where
  handle : Text
  stem : Bytes
  deriving DecidableEq, Repr

namespace Tag

def isAddressChar (inBrackets : Bool) (c : Char) : Bool :=
  isNameChar c || ";/?:@&=+$.!~*'()".toList.contains c || (inBrackets && ",[]".toList.contains c)

/-- How many bytes belong to a character that starts with this one. -/
def width? (byte : Nat) : Option Nat :=
  if byte < 0x80 then some 1
  else if byte / 32 = 6 then some 2
  else if byte / 16 = 14 then some 3
  else if byte / 8 = 30 then some 4
  else none

def hexByte? (high low : Char) : Option Nat := do
  let digit (c : Char) : Option Nat :=
    if c.isDigit then some (c.toNat - '0'.toNat)
    else if 'a' ≤ c ∧ c ≤ 'f' then some (c.toNat - 'a'.toNat + 10)
    else if 'A' ≤ c ∧ c ≤ 'F' then some (c.toNat - 'A'.toNat + 10)
    else none
  return (← digit high) * 16 + (← digit low)

/-- The bytes of an address and how many characters it is written with. `owed` bytes are
still to come for a character begun in escapes. -/
def address? (inBrackets : Bool) (owed : Nat) : Text → Option (Bytes × Nat)
  | '%' :: high :: low :: rest =>
    match hexByte? high low with
    | none => none
    | some byte =>
      let owed := if owed = 0 then (width? byte).map (· - 1)
        else if byte / 64 = 2 then some (owed - 1) else none
      owed.bind fun owed =>
        (address? inBrackets owed rest).map fun (bytes, length) =>
          (UInt8.ofNat byte :: bytes, length + 3)
  | c :: rest =>
    if owed ≠ 0 || c = '%' then none
    else if isAddressChar inBrackets c then
      (address? inBrackets 0 rest).map fun (bytes, length) =>
        (String.utf8EncodeChar c ++ bytes, length + 1)
    else some ([], 0)
  | [] => if owed = 0 then some ([], 0) else none

/-- Reads an address that starts with `head`. It may not be empty; a zero byte ends it. -/
def readAddress? (inBrackets : Bool) (head : Text) (source : Source) : Option (Bytes × Source) :=
  (address? inBrackets 0 source.rest).bind fun (bytes, length) =>
    if head.isEmpty && length = 0 then none
    else
      let whole := Utf8.encode (head.drop 1) ++ bytes
      some (whole.takeWhile (· != 0), source.skip length)

/-- Reads an exclamation mark, a name and possibly a second exclamation mark. -/
def readHandle? (source : Source) : Option (Text × Source) :=
  if source.isAt '!' then
    let (name, source) := (source.skip 1).span isNameChar
    if source.isAt '!' then some ('!' :: name ++ ['!'], source.skip 1)
    else some ('!' :: name, source)
  else none

def isHandle (text : Text) : Bool := 1 < text.length && text.getLast? == some '!'

/-- Reads a tag from its exclamation mark on. -/
def read? (inFlow : Bool) (source : Source) : Option (WrittenTag × Source) := do
  let (tag, source) ← if source.ahead 1 == some '<' then do
      let (suffix, source) ← readAddress? true [] (source.skip 2)
      if source.isAt '>' then some (WrittenTag.mk [] suffix, source.skip 1) else none
    else do
      let (handle, source) ← readHandle? source
      if isHandle handle then
        let (suffix, source) ← readAddress? false [] source
        some (WrittenTag.mk handle suffix, source)
      else
        let (suffix, source) ← readAddress? false handle source
        if suffix.isEmpty then some (WrittenTag.mk [] (Utf8.encode "!"), source)
        else some (WrittenTag.mk ['!'] suffix, source)
  if (inFlow && source.isAt ',') || source.wordEndsAt 0 then some (tag, source) else none

end Tag

/-- A directive of a document. Others than these two are refused. -/
inductive Directive
  | version (major minor : Nat)
  | tag (directive : TagDirective)
  deriving DecidableEq, Repr

namespace Directive

/-- A number of one to nine digits. -/
def readNumber? (source : Source) : Option (Nat × Source) :=
  let (digits, source) := source.span Char.isDigit
  if digits.isEmpty || 9 < digits.length then none
  else some (digits.foldl (fun n c => n * 10 + (c.toNat - '0'.toNat)) 0, source)

def readVersion? (source : Source) : Option (Directive × Source) := do
  let (major, source) ← readNumber? (source.span isGap).2
  if source.isAt '.' then
    let (minor, source) ← readNumber? (source.skip 1)
    some (.version major minor, source)
  else none

def readTag? (source : Source) : Option (Directive × Source) := do
  let (handle, source) ← Tag.readHandle? (source.span isGap).2
  if handle != ['!'] && !Tag.isHandle handle then none
  else if !Source.holds isGap source.peek then none
  else
    let (stem, source) ← Tag.readAddress? true [] (source.span isGap).2
    if source.wordEndsAt 0 then some (.tag ⟨handle, stem⟩, source) else none

/-- Reads a directive from its percent sign to the end of its line. -/
def read? (source : Source) : Option (Directive × Source) := do
  let (name, source) := (source.skip 1).span isNameChar
  if !source.wordEndsAt 0 then none
  else
    let (directive, source) ←
      if name == "YAML".toList then readVersion? source
      else if name == "TAG".toList then readTag? source
      else none
    return (directive, ← source.skipLineEnd?)

end Directive
end Runbook.Yaml
