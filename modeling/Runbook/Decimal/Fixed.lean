import Runbook.Decimal.Shortest

/-! Decimals with two places. The exact binary value is rounded, and a half goes to the
even neighbour. -/
namespace Runbook.Decimal

/-- The nearest whole number to `num / den`, an even one if two are as near. -/
def roundHalfEven (num den : Nat) : Nat :=
  let below := num / den
  let twice := 2 * (num % den)
  if twice < den || (twice == den && below % 2 == 0) then below else below + 1

def hundredths (count : Nat) : Text :=
  Text.ofNat (count / 100) ++ '.' :: Text.ofNat (count / 10 % 10) ++ Text.ofNat (count % 10)

def twoPlaces (x : Float) : Text :=
  let binary := Binary.ofFloat x
  match binary.size with
  | .undefined => "NaN"
  | .infinite => signed binary.negative "inf"
  | .zero => signed binary.negative (hundredths 0)
  | .finite magnitude =>
    let (num, den) := magnitude.quotient
    signed binary.negative (hundredths (roundHalfEven (num * 100) den))

end Runbook.Decimal
