import Runbook.Text

/-! White space: the characters that separate words and make up a blank line. The set
is the Unicode property White_Space. -/
namespace Runbook.Text

def isBlank (c : Char) : Bool :=
  let n := c.toNat
  n == 0x20 || (0x09 ≤ n && n ≤ 0x0D) || n == 0x85 || n == 0xA0 || n == 0x1680 ||
    (0x2000 ≤ n && n ≤ 0x200A) || n == 0x2028 || n == 0x2029 || n == 0x202F ||
    n == 0x205F || n == 0x3000

def trimStart (text : Text) : Text := text.dropWhile isBlank

def trimEnd (text : Text) : Text := (text.reverse.dropWhile isBlank).reverse

def trim (text : Text) : Text := trimEnd (trimStart text)

/-- Nothing but white space, or nothing at all. -/
def isBlankText (text : Text) : Bool := text.all isBlank

theorem trimStart_eq_nil {text : Text} : trimStart text = [] ↔ isBlankText text = true := by
  induction text with
  | nil => simp [trimStart, isBlankText]
  | cons c rest ih =>
    simp only [trimStart, isBlankText, List.dropWhile_cons, List.all_cons, Bool.and_eq_true] at *
    split <;> simp_all

/-- White space around a text is no part of what is left of it. -/
theorem trim_padded {left text right : Text} (before : isBlankText left = true)
    (behind : isBlankText right = true) : trim (left ++ text ++ right) = trim text := by
  have lead : trimStart (left ++ text ++ right) = trimStart (text ++ right) := by
    rw [trimStart, List.append_assoc, List.dropWhile_append_of_pos (List.all_eq_true.mp before)]
    rfl
  have white : ∀ c ∈ right.reverse, isBlank c = true := fun c member =>
    List.all_eq_true.mp behind c (List.mem_reverse.mp member)
  rw [trim, trim, lead]
  by_cases blank : trimStart text = []
  · have nothing : trimStart (text ++ right) = [] := by
      rw [trimStart_eq_nil, isBlankText, List.all_append, Bool.and_eq_true]
      exact ⟨trimStart_eq_nil.mp blank, behind⟩
    rw [nothing, blank]
  · have tail : trimStart (text ++ right) = trimStart text ++ right := by
      rw [trimStart, List.dropWhile_append, if_neg (by simpa [trimStart] using blank)]
      rfl
    rw [tail, trimEnd, List.reverse_append, List.dropWhile_append_of_pos white]
    rfl

end Runbook.Text
