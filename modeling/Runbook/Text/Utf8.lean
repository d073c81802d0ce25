import Runbook.Text

/-! UTF-8. A strict reader refuses bytes that are not well formed; a lenient one puts a
replacement character for each longest start of a character that leads nowhere. -/
namespace Runbook

abbrev Bytes := List UInt8

namespace Utf8

def encode (text : Text) : Bytes := text.flatMap String.utf8EncodeChar

/-- A character whose first bytes have been read: how many are still owed, the bounds of
the next one, and the bits so far. -/
structure Pending where
  owed : Nat
  low : Nat
  high : Nat
  bits : Nat
  deriving DecidableEq, Repr

/-- What the first byte of a character of more than one byte announces. -/
def start? (byte : Nat) : Option Pending :=
  if 0xC2 ≤ byte ∧ byte ≤ 0xDF then some ⟨1, 0x80, 0xBF, byte - 0xC0⟩
  else if byte = 0xE0 then some ⟨2, 0xA0, 0xBF, 0⟩
  else if byte = 0xED then some ⟨2, 0x80, 0x9F, 0xD⟩
  else if 0xE1 ≤ byte ∧ byte ≤ 0xEF then some ⟨2, 0x80, 0xBF, byte - 0xE0⟩
  else if byte = 0xF0 then some ⟨3, 0x90, 0xBF, 0⟩
  else if 0xF1 ≤ byte ∧ byte ≤ 0xF3 then some ⟨3, 0x80, 0xBF, byte - 0xF0⟩
  else if byte = 0xF4 then some ⟨3, 0x80, 0x8F, 4⟩
  else none

/-- One sign of the decoded text: a character, or a fault in its place. -/
abbrev Sign := Option Char

/-- Reads a byte where a character may begin. -/
def begin (byte : UInt8) : Option Sign × Option Pending :=
  let n := byte.toNat
  if n < 0x80 then (some (some (Char.ofNat n)), none)
  else match start? n with
    | some pending => (none, some pending)
    | none => (some none, none)

/-- The signs of a byte sequence. A character that breaks off counts as one fault, and the
byte that breaks it is read afresh. -/
def signsFrom : Option Pending → Bytes → List Sign
  | none, [] => []
  | some _, [] => [none]
  | none, byte :: rest =>
    let (sign, pending) := begin byte
    sign.toList ++ signsFrom pending rest
  | some pending, byte :: rest =>
    let n := byte.toNat
    if pending.low ≤ n ∧ n ≤ pending.high then
      let bits := pending.bits * 64 + (n - 0x80)
      if pending.owed = 1 then some (Char.ofNat bits) :: signsFrom none rest
      else signsFrom (some ⟨pending.owed - 1, 0x80, 0xBF, bits⟩) rest
    else
      let (sign, pending) := begin byte
      none :: (sign.toList ++ signsFrom pending rest)

def signs (bytes : Bytes) : List Sign := signsFrom none bytes

def decode? (bytes : Bytes) : Option Text := (signs bytes).mapM id

def decodeLossy (bytes : Bytes) : Text := (signs bytes).map fun sign => sign.getD '\uFFFD'

end Utf8
end Runbook
