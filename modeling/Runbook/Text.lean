/-! Text as the list of its characters, with the few searches and comparisons the
rest of the library is stated in. A string literal is read as such a list. -/
namespace Runbook

abbrev Text := List Char

instance : Coe String Text := ⟨String.toList⟩

namespace Text

/-- What follows `start`, if the text opens with it. -/
def after? (start text : Text) : Option Text :=
  if start.isPrefixOf text then some (text.drop start.length) else none

/-- What precedes `finish`, if the text closes with it. -/
def before? (finish text : Text) : Option Text :=
  if finish.isSuffixOf text then some (text.take (text.length - finish.length)) else none

/-- Whether `part` stands somewhere in the text without a gap. -/
def occursIn (part : Text) : Text → Bool
  | [] => part.isEmpty
  | c :: rest => part.isPrefixOf (c :: rest) || occursIn part rest

/-- Equality up to the case of the letters `a` to `z`. -/
def agrees (a b : Text) : Bool := a.map Char.toLower == b.map Char.toLower

def endsLine (text : Text) : Bool := text.getLast? == some '\n'

/-- Adds the newline that a non-terminated text lacks. The empty text lacks one too. -/
def terminated (text : Text) : Text := if endsLine text then text else text ++ ['\n']

def joined (separator : Text) (parts : List Text) : Text := List.intercalate separator parts

def utf8Length : Text → Nat
  | [] => 0
  | c :: rest => c.utf8Size + utf8Length rest

/-- Decimal digits without sign or leading zeros. -/
def ofNat (n : Nat) : Text := Nat.toDigits 10 n

def ofInt : Int → Text
  | .ofNat n => ofNat n
  | .negSucc n => '-' :: ofNat (n + 1)

theorem after?_append (start rest : Text) : after? start (start ++ rest) = some rest := by
  simp [after?]

theorem eq_append_of_after? {start text rest : Text} (h : after? start text = some rest) :
    text = start ++ rest := by
  unfold after? at h
  split at h
  · rename_i isStart
    obtain ⟨more, rfl⟩ := List.isPrefixOf_iff_prefix.mp isStart
    simp at h
    rw [h]
  · cases h

theorem occursIn_iff {part text : Text} : occursIn part text = true ↔ part <:+: text := by
  induction text with
  | nil => simp [occursIn]
  | cons c rest ih =>
    simp only [occursIn, Bool.or_eq_true, List.isPrefixOf_iff_prefix, ih, List.infix_cons_iff]

end Text
end Runbook
