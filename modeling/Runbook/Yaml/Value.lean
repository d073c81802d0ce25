import Runbook.Yaml.Document

/-! Values: what nodes mean. Plain scalars are told apart by their form, and tags can ask
for a type. Aliases are followed, but only so often and so deep. -/
namespace Runbook.Yaml

inductive Value
  | null
  | bool (value : Bool)
  | int (value : Int)
  | float (value : Float)
  | text (value : Text)
  | sequence (items : List Value)
  | mapping (entries : List (Value × Value))

namespace Value

mutual

/-- Equality of values. Mappings may differ in the order of their entries. -/
def same : Value → Value → Bool
  | .null, .null => true
  | .bool a, .bool b => a == b
  | .int a, .int b => a == b
  | .float a, .float b => a == b || (a.isNaN && b.isNaN)
  | .text a, .text b => a == b
  | .sequence a, .sequence b => sameItems a b
  | .mapping a, .mapping b => a.length == b.length && sameEntries a b
  | _, _ => false

def sameItems : List Value → List Value → Bool
  | [], [] => true
  | a :: more, b :: others => same a b && sameItems more others
  | _, _ => false

/-- Whether every entry of the first list is in the second. -/
def sameEntries : List (Value × Value) → List (Value × Value) → Bool
  | [], _ => true
  | (key, value) :: more, others =>
    (others.any fun (k, v) => same key k && same value v) && sameEntries more others

end

/-- Whether no two of the values are equal. -/
def distinct : List Value → Bool
  | [] => true
  | value :: more => !(more.any fun other => same value other) && distinct more

mutual

/-- Whether no mapping in a value has a key twice. -/
def hasDistinctKeys : Value → Bool
  | .sequence items => allDistinctKeys items
  | .mapping entries => distinct (entries.map (·.1)) && entriesDistinctKeys entries
  | _ => true

def allDistinctKeys : List Value → Bool
  | [] => true
  | value :: more => hasDistinctKeys value && allDistinctKeys more

def entriesDistinctKeys : List (Value × Value) → Bool
  | [] => true
  | (key, value) :: more =>
    hasDistinctKeys key && hasDistinctKeys value && entriesDistinctKeys more

end

end Value

namespace Plain

def isNull (text : Text) : Bool :=
  text == ['~'] || text == "null".toList || text == "Null".toList || text == "NULL".toList

def bool? (text : Text) : Option Bool :=
  if text == "true".toList || text == "True".toList || text == "TRUE".toList then some true
  else if text == "false".toList || text == "False".toList || text == "FALSE".toList then
    some false
  else none

def digit? (base : Nat) (c : Char) : Option Nat :=
  (Quoted.hexDigit? c).filter (· < base)

/-- A whole number in a base, without a sign. -/
def natural? (base : Nat) (text : Text) : Option Nat :=
  if text.isEmpty then none
  else text.foldl (fun n c => do return (← n) * base + (← digit? base c)) (some 0)

/-- A number with a zero in front of its other digits is not a number but text. -/
def hasLeadingZero (text : Text) : Bool :=
  match Text.after? "-" text |>.or (Text.after? "+" text) |>.getD text with
  | '0' :: c :: more => (c :: more).all Char.isDigit
  | _ => false

/-- A whole number without its sign: in base 16, 8 or 2 after a mark, or in base ten. -/
def magnitude? (text : Text) : Option Nat :=
  let marked (mark : String) (base : Nat) : Option Nat :=
    (Text.after? mark text).bind (natural? base)
  (marked "0x" 16 <|> marked "0o" 8 <|> marked "0b" 2) <|> natural? 10 text

/-- A whole number. In base ten it must not begin with a spare zero. -/
def int? (text : Text) : Option Int :=
  if hasLeadingZero text then none
  else match text with
    | '-' :: rest => (magnitude? rest).map fun n => -(n : Int)
    | '+' :: rest => (magnitude? rest).map Int.ofNat
    | _ => (magnitude? text).map Int.ofNat

/-- The parts of a decimal number: its digits without the point, and a power of ten. -/
def decimal? (text : Text) : Option (Nat × Int) := do
  let whole := text.takeWhile Char.isDigit
  let text := text.dropWhile Char.isDigit
  let (fraction, text) := match text with
    | '.' :: rest => (rest.takeWhile Char.isDigit, rest.dropWhile Char.isDigit)
    | _ => ([], text)
  if whole.isEmpty && fraction.isEmpty then none
  else
    let exponent ← match text with
      | [] => some 0
      | e :: rest =>
        if e = 'e' || e = 'E' then
          match rest with
          | '-' :: digits => (natural? 10 digits).map fun n => -(n : Int)
          | '+' :: digits => (natural? 10 digits).map Int.ofNat
          | digits => (natural? 10 digits).map Int.ofNat
        else none
    return (← natural? 10 (whole ++ fraction), exponent - fraction.length)

/-- The nearest double, unless the number is too large for one. -/
def nearest? (digits : Nat) (exponent : Int) : Option Float :=
  let size := (Nat.toDigits 10 digits).length + exponent
  if digits = 0 || size < -400 then some 0
  else if 310 < size then none
  else
    let x := match exponent with
      | .ofNat e => Float.ofScientific digits false e
      | .negSucc e => Float.ofScientific digits true (e + 1)
    if x.isInf then none else some x

def isWord (word : String) (text : Text) : Bool :=
  text == '.' :: word.toLower.toList || text == '.' :: word.toList ||
    text == '.' :: word.toUpper.toList

def infinity : Float := 1 / 0
def undefined : Float := 0 / 0

/-- A number with a point or an exponent, or one of the special ones. -/
def float? (text : Text) : Option Float :=
  let finite (text : Text) : Option Float := do
    let (digits, exponent) ← decimal? text
    nearest? digits exponent
  match text with
  | '+' :: rest => if isWord "Inf" rest then some infinity else finite rest
  | '-' :: rest =>
    if isWord "Inf" rest then some (-infinity) else (finite rest).map fun x => -x
  | _ =>
    if isWord "Inf" text then some infinity
    else if text == ".nan".toList || text == ".NaN".toList || text == ".NAN".toList then
      some undefined
    else finite text

/-- Whole numbers have 64 bits. Larger ones are refused as long as they have 128, and read
as other numbers beyond that; none stands for a refused one. -/
def checkedInt? (n : Int) : Option (Option Value) :=
  if -Int.ofNat (Nat.pow 2 63) ≤ n ∧ n < Int.ofNat (Nat.pow 2 64) then some (some (.int n))
  else if -Int.ofNat (Nat.pow 2 127) ≤ n ∧ n < Int.ofNat (Nat.pow 2 128) then some none
  else none

def number? (text : Text) : Option (Option Value) := (int? text).bind checkedInt?

/-- What a plain scalar without a tag means, or none if it is refused. -/
def value? (text : Text) : Option Value :=
  if text.isEmpty || isNull text then some .null
  else match bool? text with
    | some value => some (.bool value)
    | none =>
      match number? text with
      | some number => number
      | none =>
        match if hasLeadingZero text then none else float? text with
        | some x => some (.float x)
        | none => some (.text text)

end Plain

namespace Tag

def standard (name : String) : Tag := Utf8.encode "tag:yaml.org,2002:" ++ Utf8.encode name

/-- A tag of the document's own, which no value has a place for. -/
def isLocal : Tag → Bool
  | [] => false
  | byte :: rest => byte == 0x21 && (Utf8.decode? rest).isSome

/-- What a scalar with a tag means. -/
def value? (tag : Tag) (style : Style) (text : Text) : Option Value :=
  if tag == standard "bool" then (Plain.bool? text).map .bool
  else if tag == standard "int" then (Plain.number? text).join
  else if tag == standard "float" then (Plain.float? text).map .float
  else if tag == standard "null" then if Plain.isNull text then some .null else none
  else if tag.head? == some 0x21 && style == .plain then Plain.value? text
  else some (.text text)

end Tag

/-- Reading a document, with the number of aliases that may still be followed. -/
abbrev Reading := StateT Nat Option

namespace Document

/-- The node that is meant, an alias followed. -/
def follow (document : Document) : Node Nat → Reading (Node Nat)
  | .alias number => do
    match ← get with
    | 0 => failure
    | remaining + 1 =>
      set remaining
      match document.node? number with
      | some (.alias _) | none => failure
      | some node => return node
  | node => return node

def scalarValue? (tag : Option Tag) (style : Style) (text : Text) : Option Value :=
  match tag with
  | some tag => if tag.isLocal then none else tag.value? style text
  | none => if style = .plain then Plain.value? text else some (.text text)

def isLocal (tag : Option Tag) : Bool := (tag.map Tag.isLocal).getD false

/-- The value of a node with so many levels of collections. -/
def value (document : Document) : (levels : Nat) → Node Nat → Reading Value
  | 0, node => do
    match ← document.follow node with
    | .scalar _ tag style text => (scalarValue? tag style text : Option Value)
    | _ => failure
  | levels + 1, node => do
    match ← document.follow node with
    | .scalar _ tag style text => (scalarValue? tag style text : Option Value)
    | .sequence _ tag items =>
      if isLocal tag then failure
      else return .sequence (← items.mapM (document.value levels))
    | .mapping _ tag entries =>
      if isLocal tag then failure
      else return .mapping (← entries.mapM fun (key, value) => do
        return (← document.value levels key, ← document.value levels value))
    | .alias _ => failure

/-- A scalar as it is written, whatever its tag. -/
def text (document : Document) (node : Node Nat) : Reading Text := do
  match ← document.follow node with
  | .scalar _ _ _ text => return text
  | _ => failure

def bool (document : Document) (node : Node Nat) : Reading Bool := do
  match ← document.follow node with
  | .scalar _ tag style text =>
    if style = .plain || (style = .literal && tag == some (Tag.standard "bool")) then
      (Plain.bool? text : Option Bool)
    else failure
  | _ => failure

def isEmptyPlain (style : Style) (text : Text) : Bool := style = .plain && text.isEmpty

/-- The entries of a mapping. Nothing at all is a mapping without entries. -/
def entries (document : Document) (node : Node Nat) : Reading (List (Node Nat × Node Nat)) := do
  match ← document.follow node with
  | .mapping _ _ entries => return entries
  | .scalar _ _ style text => if isEmptyPlain style text then return [] else failure
  | _ => failure

/-- The items of a sequence. Nothing at all is a sequence without items. -/
def items (document : Document) (node : Node Nat) : Reading (List (Node Nat)) := do
  match ← document.follow node with
  | .sequence _ _ items => return items
  | .scalar _ _ style text => if isEmptyPlain style text then return [] else failure
  | _ => failure

/-- Whether there is a node at all. The null type must be given to a null. -/
def isPresent (document : Document) (node : Node Nat) : Reading Bool := do
  match ← document.follow node with
  | .scalar _ tag style text =>
    if style != .plain then return true
    else match tag with
      | some tag =>
        if tag != Tag.standard "null" then return true
        else if Plain.isNull text then return false
        else failure
      | none => return !(text.isEmpty || Plain.isNull text)
  | _ => return true

end Document
end Runbook.Yaml
