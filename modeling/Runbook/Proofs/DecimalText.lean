import Mathlib
import Runbook.Decimal.Fixed

/-! The signs of decimals. Whatever a double is, its decimal text is made of digits, a point, a
minus sign and the letters of `NaN` and `inf`. -/
namespace Runbook

theorem Text.isDigit_of_mem_ofNat {n : Nat} {c : Char} (member : c ∈ Text.ofNat n) :
    c.isDigit = true :=
  Nat.isDigit_of_mem_toDigits (by decide) (by decide) member

theorem Text.not_mem_ofNat {n : Nat} {c : Char} (other : c.isDigit = false) : c ∉ Text.ofNat n :=
  fun member => by simp [isDigit_of_mem_ofNat member] at other

namespace Decimal

/-- A sign that decimals are written with. -/
def isSign (c : Char) : Bool := c.isDigit || ['.', '-', 'N', 'a', 'i', 'n', 'f'].contains c

/-- The one capital among them. -/
theorem eq_of_isSign_of_isUpper {c : Char} (sign : isSign c = true) (upper : c.isUpper = true) :
    c = 'N' := by
  rw [isSign, Bool.or_eq_true] at sign
  rcases sign with digit | other
  · simp only [Char.isDigit, Char.isUpper, Bool.and_eq_true, decide_eq_true_eq, ge_iff_le,
      UInt32.le_iff_toNat_le] at digit upper
    exact absurd (Nat.le_trans upper.1 digit.2) (by decide)
  · simp only [List.contains_iff_mem, List.mem_cons, List.not_mem_nil, or_false] at other
    rcases other with rfl | rfl | rfl | rfl | rfl | rfl | rfl <;> first | rfl | contradiction

/-- The text is made of signs of decimals. -/
def IsDecimal (text : Text) : Prop := ∀ c ∈ text, isSign c = true

theorem isDecimal_ofNat (n : Nat) : IsDecimal (Text.ofNat n) := fun c member => by
  simp [isSign, Text.isDigit_of_mem_ofNat member]

namespace IsDecimal

variable {text more : Text}

theorem append (first : IsDecimal text) (last : IsDecimal more) : IsDecimal (text ++ more) := by
  intro c member
  rcases List.mem_append.mp member with member | member
  · exact first c member
  · exact last c member

theorem cons {c : Char} (sign : isSign c = true) (others : IsDecimal text) :
    IsDecimal (c :: text) := List.forall_mem_cons.mpr ⟨sign, others⟩

theorem signed (negative : Bool) (decimal : IsDecimal text) :
    IsDecimal (Decimal.signed negative text) := by
  cases negative
  · exact decimal
  · exact decimal.cons (by decide)

/-- A sign of another kind is not in it. -/
theorem not_mem {c : Char} (decimal : IsDecimal text) (other : isSign c = false) : c ∉ text :=
  fun member => by simp [decimal c member] at other

end IsDecimal

theorem isDecimal_fractionText (part places : Nat) : IsDecimal (fractionText part places) := by
  let digits := List.replicate (places - (Text.ofNat part).length) '0' ++ Text.ofNat part
  have whole : IsDecimal digits :=
    .append (fun c member => (List.eq_of_mem_replicate member).symm ▸ by decide) (isDecimal_ofNat _)
  have shown : IsDecimal (digits.reverse.dropWhile (· == '0')).reverse := by
    intro c member
    have kept := (List.dropWhile_suffix (· == '0')).subset (List.mem_reverse.mp member)
    exact whole c (List.mem_reverse.mp kept)
  unfold fractionText
  dsimp only
  split
  · simp [IsDecimal]
  · exact shown.cons (by decide)

theorem isDecimal_render (point : Point) : IsDecimal point.render := by
  unfold Point.render
  split
  · exact (isDecimal_ofNat _).append (isDecimal_fractionText _ _)
  · exact isDecimal_ofNat _

theorem isDecimal_shortest (x : Float) : IsDecimal (shortest x) := by
  unfold shortest
  dsimp only
  split
  · simp [IsDecimal, isSign]
  · exact .signed _ (by simp [IsDecimal, isSign])
  · exact .signed _ (by simp [IsDecimal, isSign])
  · exact .signed _ (isDecimal_render _)

theorem isDecimal_hundredths (count : Nat) : IsDecimal (hundredths count) :=
  .append ((isDecimal_ofNat _).append (.cons (by decide) (isDecimal_ofNat _))) (isDecimal_ofNat _)

theorem isDecimal_twoPlaces (x : Float) : IsDecimal (twoPlaces x) := by
  unfold twoPlaces
  dsimp only
  split
  · simp [IsDecimal, isSign]
  · exact .signed _ (by simp [IsDecimal, isSign])
  · exact .signed _ (isDecimal_hundredths _)
  · exact .signed _ (isDecimal_hundredths _)

end Decimal
end Runbook
