import Runbook.Json.Number

/-! JSON values and their reader. Nesting is limited to 127 levels, text must be free of
control characters and of halves of surrogate pairs, and of two fields with one name the
later counts. -/
namespace Runbook

inductive Json
  | null
  | bool (value : Bool)
  | number (value : Float)
  | string (value : Text)
  | array (items : List Json)
  | object (fields : List (Text × Json))

namespace Json

/-- The value of a field, if this is an object that has it. -/
def field? (name : Text) : Json → Option Json
  | .object fields => (fields.reverse.find? fun (key, _) => key == name).map (·.2)
  | _ => none

def first? : Json → Option Json
  | .array items => items.head?
  | _ => none

def text? : Json → Option Text
  | .string value => some value
  | _ => none

def number? : Json → Option Float
  | .number value => some value
  | _ => none

def items? : Json → Option (List Json)
  | .array items => some items
  | _ => none

def isSpace (c : Char) : Bool := c == ' ' || c == '\n' || c == '\t' || c == '\r'

def skipSpace (text : Text) : Text := text.dropWhile isSpace

def hexDigit? (c : Char) : Option Nat :=
  if c.isDigit then some (c.toNat - '0'.toNat)
  else if 'a' ≤ c ∧ c ≤ 'f' then some (c.toNat - 'a'.toNat + 10)
  else if 'A' ≤ c ∧ c ≤ 'F' then some (c.toNat - 'A'.toNat + 10)
  else none

def hexUnit? (a b c d : Char) : Option Nat := do
  return (((← hexDigit? a) * 16 + (← hexDigit? b)) * 16 + (← hexDigit? c)) * 16 + (← hexDigit? d)

def isHighHalf (unit : Nat) : Bool := 0xD800 ≤ unit && unit ≤ 0xDBFF
def isLowHalf (unit : Nat) : Bool := 0xDC00 ≤ unit && unit ≤ 0xDFFF

/-- The character that a short escape stands for. -/
def escaped? : Char → Option Char
  | '"' => some '"'
  | '\\' => some '\\'
  | '/' => some '/'
  | 'b' => some '\x08'
  | 'f' => some '\x0C'
  | 'n' => some '\n'
  | 'r' => some '\r'
  | 't' => some '\t'
  | _ => none

def put (c : Char) (read : Option (Text × Text)) : Option (Text × Text) :=
  read.map fun (value, rest) => (c :: value, rest)

/-- Reads a string after its opening quote. -/
def readString : Text → Option (Text × Text)
  | [] => none
  | '"' :: rest => some ([], rest)
  | '\\' :: 'u' :: a :: b :: c :: d :: rest =>
    match hexUnit? a b c d with
    | none => none
    | some unit =>
      if isLowHalf unit then none
      else if isHighHalf unit then
        match rest with
        | '\\' :: 'u' :: e :: f :: g :: h :: rest =>
          match hexUnit? e f g h with
          | some low =>
            if isLowHalf low then
              put (Char.ofNat ((unit - 0xD800) * 0x400 + (low - 0xDC00) + 0x10000)) (readString rest)
            else none
          | none => none
        | _ => none
      else put (Char.ofNat unit) (readString rest)
  | '\\' :: c :: rest =>
    match escaped? c with
    | some value => put value (readString rest)
    | none => none
  | c :: rest => if c = '\\' || c.toNat < 0x20 then none else put c (readString rest)
termination_by text => text.length

mutual

/-- Reads a value. `depth` is how many more levels may open; `fuel` bounds the values. -/
def readValue (fuel depth : Nat) (text : Text) : Option (Json × Text) :=
  match fuel with
  | 0 => none
  | fuel + 1 =>
    match skipSpace text with
    | '"' :: rest => (readString rest).map fun (value, rest) => (.string value, rest)
    | '[' :: rest =>
      if depth = 0 then none
      else match skipSpace rest with
        | ']' :: rest => some (.array [], rest)
        | _ => (readItems fuel (depth - 1) rest).map fun (items, rest) => (.array items, rest)
    | '{' :: rest =>
      if depth = 0 then none
      else match skipSpace rest with
        | '}' :: rest => some (.object [], rest)
        | _ => (readFields fuel (depth - 1) rest).map fun (fields, rest) => (.object fields, rest)
    | text =>
      match Text.after? "null" text, Text.after? "true" text, Text.after? "false" text with
      | some rest, _, _ => some (.null, rest)
      | _, some rest, _ => some (.bool true, rest)
      | _, _, some rest => some (.bool false, rest)
      | none, none, none => (Number.read? text).map fun (value, rest) => (.number value, rest)

/-- Reads the items of an array up to its end. -/
def readItems (fuel depth : Nat) (text : Text) : Option (List Json × Text) :=
  match fuel with
  | 0 => none
  | fuel + 1 =>
    match readValue fuel depth text with
    | none => none
    | some (item, rest) =>
      match skipSpace rest with
      | ',' :: rest => (readItems fuel depth rest).map fun (items, rest) => (item :: items, rest)
      | ']' :: rest => some ([item], rest)
      | _ => none

/-- Reads the fields of an object up to its end. -/
def readFields (fuel depth : Nat) (text : Text) : Option (List (Text × Json) × Text) :=
  match fuel with
  | 0 => none
  | fuel + 1 =>
    match skipSpace text with
    | '"' :: rest =>
      match readString rest with
      | none => none
      | some (name, rest) =>
        match skipSpace rest with
        | ':' :: rest =>
          match readValue fuel depth rest with
          | none => none
          | some (value, rest) =>
            match skipSpace rest with
            | ',' :: rest =>
              (readFields fuel depth rest).map fun (fields, rest) => ((name, value) :: fields, rest)
            | '}' :: rest => some ([(name, value)], rest)
            | _ => none
        | _ => none
    | _ => none

end

def depthLimit : Nat := 127

/-- The value of a text that holds one value and white space. Each value, item and field
costs fuel once and takes a character at least, so the fuel never runs out. -/
def parse? (text : Text) : Option Json :=
  match readValue (2 * text.length + 2) depthLimit text with
  | some (value, rest) => if (skipSpace rest).isEmpty then some value else none
  | none => none

end Json
end Runbook
