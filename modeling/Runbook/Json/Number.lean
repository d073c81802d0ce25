import Runbook.Text

/-! Numbers of a query plan. Digits are gathered into a whole number of at most 64 bits;
digits that no longer fit only count for the exponent. The number is then converted and
scaled by one power of ten, so it may be off by one unit in the last place. -/
namespace Runbook.Json.Number

def largestSignificand : Nat := Nat.pow 2 64 - 1

def digit? (c : Char) : Option Nat := if c.isDigit then some (c.toNat - '0'.toNat) else none

/-- What a run of digits adds up to: the digits that fit, how many of them, and how many
came after those. -/
structure Digits where
  significand : Nat
  fitted : Nat := 0
  dropped : Nat := 0
  rest : Text

def Digits.gather (significand fitted dropped : Nat) : Text → Digits
  | [] => ⟨significand, fitted, dropped, []⟩
  | c :: rest =>
    match digit? c with
    | none => ⟨significand, fitted, dropped, c :: rest⟩
    | some digit =>
      if dropped = 0 && significand * 10 + digit ≤ largestSignificand then
        gather (significand * 10 + digit) (fitted + 1) 0 rest
      else gather significand fitted (dropped + 1) rest

def powerOfTen (exponent : Nat) : Float := Float.ofScientific 1 false exponent

/-- Multiplies by a power of ten. No double is larger than `10 ^ 309`. -/
def scaleUp (x : Float) (exponent : Nat) : Option Float :=
  if exponent ≤ 308 then
    let scaled := x * powerOfTen exponent
    if scaled.isInf then none else some scaled
  else if x == 0 then some x else none

/-- Divides by a power of ten, in steps of at most `10 ^ 308`. Three steps reach zero. -/
def scaleDown (x : Float) (exponent : Nat) : Nat → Float
  | 0 => x
  | steps + 1 =>
    if exponent ≤ 308 then x / powerOfTen exponent
    else if x == 0 then x
    else scaleDown (x / powerOfTen 308) (exponent - 308) steps

def scaled (negative : Bool) (significand : Nat) (exponent : Int) : Option Float :=
  let x := significand.toUInt64.toFloat
  let magnitude := match exponent with
    | .ofNat e => scaleUp x e
    | .negSucc e => some (scaleDown x (e + 1) 4)
  magnitude.map fun m => if negative then -m else m

def largestExponent : Nat := Nat.pow 2 31 - 1

/-- Reads what follows an exponent sign. An exponent too large to hold makes zero of the
number, or an error if the number would be infinite. -/
def exponent? (negative : Bool) (significand : Nat) (start : Int) (text : Text) :
    Option (Float × Text) :=
  let (down, text) := match text with
    | '+' :: rest => (false, rest)
    | '-' :: rest => (true, rest)
    | _ => (false, text)
  let digits := text.takeWhile Char.isDigit
  let rest := text.dropWhile Char.isDigit
  if digits.isEmpty then none
  else
    let size := digits.foldl (fun n c => n * 10 + (c.toNat - '0'.toNat)) 0
    if largestExponent < size then
      if significand ≠ 0 && !down then none
      else some (if negative then -0.0 else 0.0, rest)
    else
      let exponent := if down then start - size else start + size
      (scaled negative significand exponent).map fun x => (x, rest)

/-- Reads what follows the digits of a number: an exponent or nothing. -/
def finish? (negative : Bool) (significand : Nat) (exponent : Int) (text : Text) :
    Option (Float × Text) :=
  match text with
  | 'e' :: rest | 'E' :: rest => exponent? negative significand exponent rest
  | _ => (scaled negative significand exponent).map fun x => (x, text)

/-- A whole number of 64 bits is converted at once; a negative one keeps its sign at zero. -/
def whole (negative : Bool) (significand : Nat) : Float :=
  let x := significand.toUInt64.toFloat
  if negative then -x else x

/-- Reads what follows the digits before the point. -/
def continue? (negative : Bool) (digits : Digits) : Option (Float × Text) :=
  match digits.rest with
  | '.' :: rest =>
    let places := Digits.gather digits.significand 0 0 rest
    if places.fitted + places.dropped = 0 then none
    else finish? negative places.significand (digits.dropped - places.fitted : Int) places.rest
  | 'e' :: _ | 'E' :: _ => finish? negative digits.significand digits.dropped digits.rest
  | rest =>
    if digits.dropped = 0 then some (whole negative digits.significand, rest)
    else (scaled negative digits.significand digits.dropped).map fun x => (x, rest)

/-- Reads a number from its first character on. A zero stands alone before the point. -/
def read? (text : Text) : Option (Float × Text) :=
  let (negative, text) := match text with
    | '-' :: rest => (true, rest)
    | _ => (false, text)
  match text with
  | '0' :: rest =>
    if (rest.head?.map Char.isDigit).getD false then none
    else continue? negative { significand := 0, rest }
  | c :: _ => if c.isDigit then continue? negative (Digits.gather 0 0 0 text) else none
  | [] => none

end Runbook.Json.Number
