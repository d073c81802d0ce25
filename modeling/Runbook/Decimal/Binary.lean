/-! Double precision numbers taken apart: a sign and an exact magnitude, so that their
decimal forms can be worked out in whole numbers. -/
namespace Runbook.Decimal

/-- A positive magnitude `mantissa * 2 ^ exponent`. -/
structure Magnitude where
  mantissa : Nat
  exponent : Int
  /-- The next smaller double is only half as far away as the next larger one. -/
  narrowBelow : Bool
  deriving DecidableEq, Repr

inductive Size
  | zero
  | finite (magnitude : Magnitude)
  | infinite
  | undefined
  deriving DecidableEq, Repr

structure Binary where
  negative : Bool
  size : Size
  deriving DecidableEq, Repr

def Binary.ofBits (bits : Nat) : Binary :=
  let fraction : Nat := bits % Nat.pow 2 52
  let biased : Nat := bits / Nat.pow 2 52 % Nat.pow 2 11
  { negative := bits / Nat.pow 2 63 % 2 == 1
    size :=
      if biased = 2047 then (if fraction = 0 then .infinite else .undefined)
      else if biased = 0 then (if fraction = 0 then .zero else .finite ⟨fraction, -1074, false⟩)
      else .finite ⟨Nat.pow 2 52 + fraction, (biased : Int) - 1075, fraction = 0 && biased ≠ 1⟩ }

def Binary.ofFloat (x : Float) : Binary := ofBits x.toBits.toNat

/-- A magnitude as a quotient of whole numbers. -/
def Magnitude.quotient (m : Magnitude) : Nat × Nat :=
  match m.exponent with
  | .ofNat e => (m.mantissa * Nat.pow 2 e, 1)
  | .negSucc e => (m.mantissa, Nat.pow 2 (e + 1))

end Runbook.Decimal
