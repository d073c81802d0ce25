import Runbook.Decimal.Binary
import Runbook.Text

/-! The shortest decimal that reads back as the same double, written without an exponent.
Grids of one, two, … digits are tried in turn; on each one only the two points beside the
number can lie within the reach of its rounding. The nearer of two hits is taken, and the
larger one if both are as near. -/
namespace Runbook.Decimal

/-- `digits / 10 ^ places`, where `places` may be negative. -/
structure Point where
  digits : Nat
  places : Int
  deriving DecidableEq, Repr

/-- The exponent of the leading decimal digit. Every double exceeds `10 ^ -400`. -/
def Magnitude.leading (m : Magnitude) : Int :=
  let (num, den) := m.quotient
  ((Nat.toDigits 10 (num * Nat.pow 10 400 / den)).length : Int) - 401

/-- A quarter of the distance to the next larger double, in units of `10 ^ -places`. -/
def Magnitude.quarter (m : Magnitude) (places : Int) : Nat × Nat :=
  let (num, den) := match m.exponent - 2 with
    | .ofNat e => (Nat.pow 2 e, 1)
    | .negSucc e => (1, Nat.pow 2 (e + 1))
  match places with
  | .ofNat p => (num * Nat.pow 10 p, den)
  | .negSucc p => (num, den * Nat.pow 10 (p + 1))

/-- The point of the grid with so many places that reads back as the number, if any does. -/
def Magnitude.onGrid? (m : Magnitude) (places : Int) : Option Nat :=
  let (num, den) := m.quarter places
  let exact := 4 * m.mantissa * num
  let low := (4 * m.mantissa - if m.narrowBelow then 1 else 2) * num
  let high := (4 * m.mantissa + 2) * num
  let reads (digits : Nat) : Bool :=
    if m.mantissa % 2 = 0 then low ≤ digits * den && digits * den ≤ high
    else low < digits * den && digits * den < high
  let below := exact / den
  if reads below && (!reads (below + 1) || 2 * (exact - below * den) < den) then some below
  else if reads (below + 1) then some (below + 1)
  else none

/-- Tries grids from the coarsest on. Seventeen digits always suffice. -/
def Magnitude.shortestFrom (m : Magnitude) (places : Int) : Nat → Point
  | 0 => ⟨(m.onGrid? places).getD 0, places⟩
  | finer + 1 =>
    match m.onGrid? places with
    | some digits => ⟨digits, places⟩
    | none => m.shortestFrom (places + 1) finer

def Magnitude.shortest (m : Magnitude) : Point := m.shortestFrom (-m.leading) 16

/-- The digits after the point without zeros at the end, and no point without digits. -/
def fractionText (part places : Nat) : Text :=
  let digits := Text.ofNat part
  match ((List.replicate (places - digits.length) '0' ++ digits).reverse.dropWhile (· == '0')).reverse with
  | [] => []
  | shown => '.' :: shown

def Point.render (point : Point) : Text :=
  match point.places with
  | .ofNat places =>
    Text.ofNat (point.digits / Nat.pow 10 places) ++
      fractionText (point.digits % Nat.pow 10 places) places
  | .negSucc places => Text.ofNat (point.digits * Nat.pow 10 (places + 1))

def signed (negative : Bool) (text : Text) : Text := if negative then '-' :: text else text

def shortest (x : Float) : Text :=
  let binary := Binary.ofFloat x
  match binary.size with
  | .undefined => "NaN"
  | .infinite => signed binary.negative "inf"
  | .zero => signed binary.negative "0"
  | .finite magnitude => signed binary.negative magnitude.shortest.render

end Runbook.Decimal
