import Mathlib
import Runbook.Text.Utf8

/-! Bytes that are well-formed UTF-8 are the encoding of the text that is read from them, so a text
that is written back as it was read gives the same bytes. -/
namespace Runbook.Utf8

/-- The last bytes of a character, from its number. -/
def continuation : Nat → Nat → Bytes
  | 0, _ => []
  | owed + 1, number => UInt8.ofNat (number / 64 ^ owed % 64 + 128) :: continuation owed number

/-- Without a fault, the bytes that a pending character owes follow, and with them its number is
known. -/
theorem signsFrom_pending {owed low high bits : Nat} {bytes : Bytes} {text : Text}
    (bounds : 128 ≤ low ∧ high ≤ 191)
    (clean : signsFrom (some ⟨owed + 1, low, high, bits⟩) bytes = text.map some) :
    ∃ number more rest, number / 64 ^ (owed + 1) = bits ∧
      (low ≤ number / 64 ^ owed % 64 + 128 ∧ number / 64 ^ owed % 64 + 128 ≤ high) ∧
      text = Char.ofNat number :: more ∧ bytes = continuation (owed + 1) number ++ rest ∧
      signsFrom none rest = more.map some := by
  -- The bounds narrow the next byte only; those after it are any that continue a character.
  induction owed generalizing low high bits bytes with
  | zero =>
    cases bytes with
    | nil => cases text <;> simp [signsFrom] at clean
    | cons byte rest =>
      rw [signsFrom] at clean
      dsimp only at clean
      split at clean
      · rename_i within
        cases text with
        | nil => simp at clean
        | cons c more =>
          simp only [Nat.zero_add, if_true, List.map_cons, List.cons.injEq, Option.some.injEq] at clean
          obtain ⟨rfl, clean⟩ := clean
          refine ⟨bits * 64 + (byte.toNat - 128), more, rest, by omega, by omega, rfl, ?_, clean⟩
          have same : (bits * 64 + (byte.toNat - 128)) % 64 + 128 = byte.toNat := by omega
          rw [continuation, Nat.pow_zero, Nat.div_one, same, UInt8.ofNat_toNat]
          rfl
      · cases text <;> simp at clean
  | succ owed ih =>
    cases bytes with
    | nil => cases text <;> simp [signsFrom] at clean
    | cons byte rest =>
      rw [signsFrom] at clean
      dsimp only at clean
      split at clean
      · rename_i within
        rw [if_neg (by omega)] at clean
        obtain ⟨number, more, behind, top, -, rfl, rfl, behindClean⟩ := ih ⟨by omega, by omega⟩ clean
        have digits : number / 64 ^ (owed + 1 + 1) = number / 64 ^ (owed + 1) / 64 := by
          rw [Nat.pow_succ, Nat.div_div_eq_div_mul]
        have same : number / 64 ^ (owed + 1) % 64 + 128 = byte.toNat := by omega
        refine ⟨number, more, behind, by omega, by omega, rfl, ?_, behindClean⟩
        have first : continuation (owed + 1 + 1) number = byte :: continuation (owed + 1) number := by
          rw [continuation, same, UInt8.ofNat_toNat]
        rw [first]
        rfl
      · cases text <;> simp at clean

theorem toNat_ofNat {number : Nat}
    (valid : number < 0xD800 ∨ 0xDFFF < number ∧ number < 0x110000) :
    (Char.ofNat number).val.toNat = number := by
  have valid : number.isValidChar := valid
  simp [Char.ofNat, valid, Char.ofNatAux]

theorem utf8EncodeChar_two {byte : UInt8} {number : Nat} (large : 0x7F < number)
    (small : number ≤ 0x7FF) (first : number / 64 + 192 = byte.toNat) :
    String.utf8EncodeChar (Char.ofNat number) = byte :: continuation 1 number := by
  have valid : number < 0xD800 ∨ 0xDFFF < number ∧ number < 0x110000 := by omega
  have digit : number / 64 % 32 + 192 = byte.toNat := by omega
  simp only [String.utf8EncodeChar, toNat_ofNat valid]
  rw [if_neg (by omega), if_pos small, digit, UInt8.ofNat_toNat]
  simp [continuation]

theorem utf8EncodeChar_three {byte : UInt8} {number : Nat} (large : 0x7FF < number)
    (small : number ≤ 0xFFFF) (scalar : number < 0xD800 ∨ 0xDFFF < number)
    (first : number / 4096 + 224 = byte.toNat) :
    String.utf8EncodeChar (Char.ofNat number) = byte :: continuation 2 number := by
  have valid : number < 0xD800 ∨ 0xDFFF < number ∧ number < 0x110000 := by omega
  have digit : number / 4096 % 16 + 224 = byte.toNat := by omega
  simp only [String.utf8EncodeChar, toNat_ofNat valid]
  rw [if_neg (by omega), if_neg (by omega), if_pos small, digit, UInt8.ofNat_toNat]
  simp [continuation]

theorem utf8EncodeChar_four {byte : UInt8} {number : Nat} (large : 0xFFFF < number)
    (small : number < 0x110000) (first : number / 262144 + 240 = byte.toNat) :
    String.utf8EncodeChar (Char.ofNat number) = byte :: continuation 3 number := by
  have valid : number < 0xD800 ∨ 0xDFFF < number ∧ number < 0x110000 := by omega
  have digit : number / 262144 % 8 + 240 = byte.toNat := by omega
  simp only [String.utf8EncodeChar, toNat_ofNat valid]
  rw [if_neg (by omega), if_neg (by omega), if_neg (by omega), digit, UInt8.ofNat_toNat]
  simp [continuation]

theorem start_bounds {byte : Nat} {pending : Pending} (begins : start? byte = some pending) :
    0 < pending.owed ∧ 128 ≤ pending.low ∧ pending.high ≤ 191 := by
  unfold start? at begins
  repeat' split at begins
  all_goals first
    | contradiction
    | obtain rfl := Option.some.inj begins
      exact ⟨by simp, by simp, by simp⟩

/-- The bytes of a character that are read without a fault are those that it is encoded in. -/
theorem utf8EncodeChar_of_start {byte : UInt8} {owed low high bits number : Nat}
    (begins : start? byte.toNat = some ⟨owed + 1, low, high, bits⟩)
    (top : number / 64 ^ (owed + 1) = bits)
    (within : low ≤ number / 64 ^ owed % 64 + 128 ∧ number / 64 ^ owed % 64 + 128 ≤ high) :
    String.utf8EncodeChar (Char.ofNat number) = byte :: continuation (owed + 1) number := by
  unfold start? at begins
  repeat' split at begins
  all_goals try contradiction
  all_goals
    simp only [Option.some.injEq, Pending.mk.injEq] at begins
    obtain ⟨length, lower, upper, value⟩ := begins
  · obtain rfl : owed = 0 := by omega
    exact utf8EncodeChar_two (by omega) (by omega) (by omega)
  · obtain rfl : owed = 1 := by omega
    exact utf8EncodeChar_three (by omega) (by omega) (by omega) (by omega)
  · obtain rfl : owed = 1 := by omega
    exact utf8EncodeChar_three (by omega) (by omega) (by omega) (by omega)
  · obtain rfl : owed = 1 := by omega
    exact utf8EncodeChar_three (by omega) (by omega) (by omega) (by omega)
  · obtain rfl : owed = 2 := by omega
    exact utf8EncodeChar_four (by omega) (by omega) (by omega)
  · obtain rfl : owed = 2 := by omega
    exact utf8EncodeChar_four (by omega) (by omega) (by omega)
  · obtain rfl : owed = 2 := by omega
    exact utf8EncodeChar_four (by omega) (by omega) (by omega)

theorem encode_of_signs {bytes : Bytes} {text : Text} (clean : signsFrom none bytes = text.map some) :
    encode text = bytes := by
  match bytes with
  | [] =>
    cases text with
    | nil => rfl
    | cons c more => simp [signsFrom] at clean
  | byte :: rest =>
    rw [signsFrom] at clean
    unfold begin at clean
    dsimp only at clean
    split at clean
    · rename_i ascii
      cases text with
      | nil => simp at clean
      | cons c more =>
        simp only [Option.toList_some, List.singleton_append, List.map_cons, List.cons.injEq,
          Option.some.injEq] at clean
        obtain ⟨rfl, clean⟩ := clean
        have onward := encode_of_signs clean
        have valid : byte.toNat < 0xD800 ∨ 0xDFFF < byte.toNat ∧ byte.toNat < 0x110000 := by omega
        have single : String.utf8EncodeChar (Char.ofNat byte.toNat) = [byte] := by
          simp only [String.utf8EncodeChar, toNat_ofNat valid]
          rw [if_pos (by omega), UInt8.ofNat_toNat]
        simp only [encode, List.flatMap_cons, single] at onward ⊢
        rw [onward]
        rfl
    · split at clean
      · rename_i pending begins
        obtain ⟨owed, low, high, bits⟩ := pending
        obtain ⟨owes, lower, upper⟩ : 0 < owed ∧ 128 ≤ low ∧ high ≤ 191 := start_bounds begins
        obtain ⟨owed, rfl⟩ : ∃ more, owed = more + 1 := ⟨owed - 1, by omega⟩
        obtain ⟨number, more, behind, top, within, rfl, rfl, behindClean⟩ :=
          signsFrom_pending ⟨lower, upper⟩ clean
        have onward := encode_of_signs behindClean
        have first := utf8EncodeChar_of_start begins top within
        simp only [encode, List.flatMap_cons, first] at onward ⊢
        rw [onward]
        rfl
      · cases text <;> simp at clean
termination_by bytes.length

theorem eq_map_of_mapM {signs : List Sign} {text : Text} (read : signs.mapM id = some text) :
    signs = text.map some := by
  induction signs generalizing text with
  | nil =>
    obtain rfl : [] = text := by simpa using read
    rfl
  | cons sign signs ih =>
    simp only [List.mapM_cons, id_eq, Option.bind_eq_bind, Option.bind_eq_some_iff,
      Option.pure_def, Option.some.injEq] at read
    obtain ⟨c, rfl, more, read, rfl⟩ := read
    rw [ih read]
    rfl

/-- Text that was read strictly is encoded in the bytes it was read from. -/
theorem encode_of_decode {bytes : Bytes} {text : Text} (read : decode? bytes = some text) :
    encode text = bytes :=
  encode_of_signs (eq_map_of_mapM read)

end Runbook.Utf8
