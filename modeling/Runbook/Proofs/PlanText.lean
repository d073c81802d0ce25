import Runbook.Json
import Runbook.Proofs.Scan

/-! A query plan closes no fence. Its text is JSON, where a backtick stands in a string only, and
a string begins and ends on one line; so before each backtick there is a quotation mark on its
line, and a closing fence has none. -/
namespace Runbook

namespace Text

/-- Before every backtick a quotation mark stands on the same line. -/
def Quoted (text : Text) : Prop :=
  ∀ before after, text = before ++ '\x60' :: after → ∃ start between,
    before = start ++ '"' :: between ∧ '\n' ∉ between

variable {text read rest : Text}

theorem Quoted.ofPlain (plain : '\x60' ∉ text) : Quoted text := by
  rintro before after rfl
  simp at plain

theorem Quoted.append (first : Quoted read) (last : Quoted rest) : Quoted (read ++ rest) := by
  intro before after same
  rcases List.append_eq_append_iff.mp same with ⟨between, rfl, behind⟩ | ⟨between, whole, behind⟩
  · obtain ⟨start, middle, rfl, single⟩ := last between after behind
    exact ⟨read ++ start, middle, by simp, single⟩
  · cases between with
    | nil =>
      obtain ⟨start, middle, rest, -⟩ := last [] after behind.symm
      simp at rest
    | cons c between =>
      obtain ⟨rfl, -⟩ := List.cons.inj behind
      exact first before between whole

/-- A string with what follows its quotation mark on the line. -/
theorem Quoted.string (single : '\n' ∉ text) : Quoted ('"' :: text) := by
  intro before after same
  cases before with
  | nil => exact absurd (List.cons.inj same).1 (by decide)
  | cons c before =>
    obtain ⟨rfl, rfl⟩ := List.cons.inj same
    exact ⟨[], before, rfl, fun broken => single (by simp [broken])⟩

/-- White space around a text makes no difference. -/
theorem Quoted.of_trim (quoted : Quoted (trim text)) : Quoted text := by
  have plain {blanks : Text} (white : ∀ c ∈ blanks, isBlank c = true) : '\x60' ∉ blanks :=
    fun member => absurd (white _ member) (by decide)
  obtain ⟨before, after, shape, lead, tail⟩ := trim_between text
  rw [shape]
  exact .append (.append (.ofPlain (plain lead)) quoted) (.ofPlain (plain tail))

/-- No line of such a text is a closing fence. -/
theorem Quoted.unclosed (quoted : Quoted text) :
    ∀ line ∈ lines text, Fence.isClose line = false := by
  intro line member
  apply Bool.eq_false_iff.mpr
  intro closes
  obtain ⟨blanks, after, shape, white, -⟩ := trim_between line
  rw [beq_iff_eq.mp closes, Fence.marker_eq] at shape
  obtain ⟨above, below, cut⟩ := List.append_of_mem member
  have ended : ∀ line ∈ above, Line.IsEnded line :=
    (cut ▸ areLines_lines text : AreLines (above ++ line :: below)).ended_of_append (by simp)
  have whole : text = (above.flatten ++ blanks) ++ '\x60' :: ('\x60' :: '\x60' :: after ++
      below.flatten) := by
    rw [← lines_flatten text, cut, shape]
    simp
  obtain ⟨start, between, same, single⟩ := quoted _ _ whole
  rcases List.append_eq_append_iff.mp same with ⟨middle, rfl, behind⟩ | ⟨middle, lead, behind⟩
  · exact absurd (white '"' (by simp [behind])) (by decide)
  · -- The quotation mark stands on a line above, and the end of that line is between.
    cases middle with
    | nil => exact absurd (white '"' (by simp [← show _ = blanks from behind])) (by decide)
    | cons c middle =>
      obtain ⟨rfl, rfl⟩ := List.cons.inj behind
      rcases List.eq_nil_or_concat above with rfl | ⟨init, last, rfl⟩
      · simp at lead
      · obtain ⟨body, -, rfl⟩ := ended last (by simp)
        have final := congrArg List.getLast? lead
        simp only [List.concat_eq_append, List.flatten_append, List.flatten_singleton,
          ← List.append_assoc, List.getLast?_concat] at final
        rw [List.getLast?_append, List.getLast?_cons, Option.some_or, Option.some.injEq] at final
        cases ends : middle.getLast? with
        | none =>
          rw [ends] at final
          exact absurd final (by decide)
        | some c =>
          rw [ends, Option.getD_some] at final
          exact single (List.mem_append_left _ (final ▸ List.mem_of_getLast? ends))

end Text

namespace Json

/-- What was read of the text is quoted. -/
def Reads (text rest : Text) : Prop := ∃ read, text = read ++ rest ∧ Text.Quoted read

namespace Reads

variable {text between rest : Text} {c : Char}

theorem refl (text : Text) : Reads text text := ⟨[], rfl, .ofPlain (by simp)⟩

theorem trans (first : Reads text between) (last : Reads between rest) : Reads text rest := by
  obtain ⟨read, rfl, quoted⟩ := first
  obtain ⟨more, rfl, others⟩ := last
  exact ⟨read ++ more, (List.append_assoc ..).symm, quoted.append others⟩

theorem ofPlain {read : Text} (plain : '\x60' ∉ read) : Reads (read ++ rest) rest :=
  ⟨read, rfl, .ofPlain plain⟩

/-- A sign of the grammar is read. -/
theorem sign (differs : '\x60' ≠ c) (rest : Text) : Reads (c :: rest) rest :=
  ⟨[c], rfl, .ofPlain (by simpa using differs)⟩

theorem skipSpace (text : Text) : Reads text (skipSpace text) := by
  refine ⟨text.takeWhile isSpace, (List.takeWhile_append_dropWhile ..).symm, .ofPlain ?_⟩
  intro member
  exact absurd (List.all_eq_true.mp List.all_takeWhile _ member) (by decide)

theorem after? {start : Text} (plain : '\x60' ∉ start)
    (found : Text.after? start text = some rest) : Reads text rest := by
  rw [Text.eq_append_of_after? found]
  exact ofPlain plain

end Reads

/-- What was read of the text lies on one line. -/
def StaysOnLine (text rest : Text) : Prop := ∃ read, text = read ++ rest ∧ '\n' ∉ read

theorem StaysOnLine.cons {text rest : Text} {c : Char} (differs : '\n' ≠ c)
    (stays : StaysOnLine text rest) : StaysOnLine (c :: text) rest := by
  obtain ⟨read, rfl, single⟩ := stays
  exact ⟨c :: read, rfl, by simp [differs, single]⟩

/-- What is made of a value that was read leaves the rest of the text as it is. -/
theorem exists_of_map {α β : Type} {f : α → β} {read : Option (α × Text)} {value : β} {rest : Text}
    (found : (read.map fun (value, rest) => (f value, rest)) = some (value, rest)) :
    ∃ part, read = some (part, rest) := by
  obtain ⟨⟨part, behind⟩, same, shape⟩ := Option.map_eq_some_iff.mp found
  obtain ⟨-, rfl⟩ := Prod.mk.inj shape
  exact ⟨part, same⟩

theorem hexUnit?_signs {a b c d : Char} {unit : Nat} (found : hexUnit? a b c d = some unit) :
    '\n' ≠ a ∧ '\n' ≠ b ∧ '\n' ≠ c ∧ '\n' ≠ d := by
  have newline : hexDigit? '\n' = none := by decide
  refine ⟨?_, ?_, ?_, ?_⟩
  all_goals
    rintro rfl
    simp [hexUnit?, newline] at found

/-- A string ends on the line it begins on: a newline in it is an error. -/
theorem readString_line {text rest value : Text} (read : readString text = some (value, rest)) :
    StaysOnLine text rest := by
  fun_induction readString text generalizing value with
  | case2 behind =>
    obtain ⟨-, rfl⟩ := Prod.mk.inj (Option.some.inj read)
    exact ⟨['"'], rfl, by decide⟩
  | case5 a b c d unit digits _ _ e f g h behind low others _ ih =>
    obtain ⟨more, read⟩ := exists_of_map read
    obtain ⟨first, second, third, fourth⟩ := hexUnit?_signs digits
    obtain ⟨fifth, sixth, seventh, eighth⟩ := hexUnit?_signs others
    exact .cons (by decide) (.cons (by decide) (.cons first (.cons second (.cons third
      (.cons fourth (.cons (by decide) (.cons (by decide) (.cons fifth (.cons sixth (.cons seventh
        (.cons eighth (ih read))))))))))))
  | case9 a b c d behind unit digits _ _ ih =>
    obtain ⟨more, read⟩ := exists_of_map read
    obtain ⟨first, second, third, fourth⟩ := hexUnit?_signs digits
    exact .cons (by decide) (.cons (by decide) (.cons first (.cons second (.cons third
      (.cons fourth (ih read))))))
  | case10 c behind _ value escape ih =>
    obtain ⟨more, read⟩ := exists_of_map read
    have newline : escaped? '\n' = none := by decide
    have differs : '\n' ≠ c := by
      rintro rfl
      rw [newline] at escape
      contradiction
    exact .cons (by decide) (.cons differs (ih read))
  | case13 c behind _ _ _ plain ih =>
    obtain ⟨more, read⟩ := exists_of_map read
    have differs : '\n' ≠ c := by
      rintro rfl
      exact plain (by decide)
    exact .cons differs (ih read)
  | _ => contradiction

/-- A string that was read is quoted by its first sign. -/
theorem Reads.string {text rest value : Text} (read : readString text = some (value, rest)) :
    Reads ('"' :: text) rest := by
  obtain ⟨body, rfl, single⟩ := readString_line read
  exact ⟨'"' :: body, rfl, .string single⟩

namespace Number

variable {negative : Bool} {significand fitted dropped : Nat} {exponent : Int} {text rest : Text}
  {value : Float}

theorem gather_reads (significand fitted dropped : Nat) (text : Text) :
    Reads text (Digits.gather significand fitted dropped text).rest := by
  induction text generalizing significand fitted dropped with
  | nil => exact .refl []
  | cons c text ih =>
    rw [Digits.gather]
    split
    · exact .refl _
    · rename_i digit found
      have differs : '\x60' ≠ c := by
        rintro rfl
        exact absurd found (by simp [digit?])
      split
      · exact (Reads.sign differs text).trans (ih _ _ _)
      · exact (Reads.sign differs text).trans (ih _ _ _)

theorem exponent?_reads (read : exponent? negative significand exponent text = some (value, rest)) :
    Reads text rest := by
  have digits (behind : Text) : Reads behind (behind.dropWhile Char.isDigit) := by
    refine ⟨behind.takeWhile Char.isDigit, (List.takeWhile_append_dropWhile ..).symm, .ofPlain ?_⟩
    intro member
    exact absurd (List.all_eq_true.mp List.all_takeWhile _ member) (by decide)
  unfold exponent? at read
  split at read
  rename_i down behind signed
  have sign : Reads text behind := by
    split at signed <;> obtain ⟨-, rfl⟩ := Prod.mk.inj signed
    · exact .sign (by decide) _
    · exact .sign (by decide) _
    · exact .refl _
  refine sign.trans ?_
  dsimp only at read
  split at read
  · contradiction
  · split at read
    · split at read
      · contradiction
      · obtain ⟨-, rfl⟩ := Prod.mk.inj (Option.some.inj read)
        exact digits behind
    · obtain ⟨x, -, same⟩ := Option.map_eq_some_iff.mp read
      obtain ⟨-, rfl⟩ := Prod.mk.inj same
      exact digits behind

theorem finish?_reads (read : finish? negative significand exponent text = some (value, rest)) :
    Reads text rest := by
  unfold finish? at read
  split at read
  · exact (Reads.sign (by decide) _).trans (exponent?_reads read)
  · exact (Reads.sign (by decide) _).trans (exponent?_reads read)
  · obtain ⟨x, -, same⟩ := Option.map_eq_some_iff.mp read
    obtain ⟨-, rfl⟩ := Prod.mk.inj same
    exact .refl _

theorem continue?_reads {digits : Digits} (read : continue? negative digits = some (value, rest)) :
    Reads digits.rest rest := by
  unfold continue? at read
  split at read
  · rename_i behind point
    rw [point]
    extract_lets places at read
    split at read
    · contradiction
    · exact (Reads.sign (by decide) _).trans
        ((gather_reads _ 0 0 behind).trans (finish?_reads read))
  · exact finish?_reads read
  · exact finish?_reads read
  · split at read
    · obtain ⟨-, rfl⟩ := Prod.mk.inj (Option.some.inj read)
      exact .refl _
    · obtain ⟨x, -, same⟩ := Option.map_eq_some_iff.mp read
      obtain ⟨-, rfl⟩ := Prod.mk.inj same
      exact .refl _

theorem read?_reads (read : read? text = some (value, rest)) : Reads text rest := by
  unfold read? at read
  split at read
  rename_i negative behind signed
  have sign : Reads text behind := by
    split at signed <;> obtain ⟨-, rfl⟩ := Prod.mk.inj signed
    · exact .sign (by decide) _
    · exact .refl _
  refine sign.trans ?_
  split at read
  · split at read
    · contradiction
    · exact (Reads.sign (by decide) _).trans (continue?_reads read)
  · split at read
    · exact (gather_reads 0 0 0 _).trans (continue?_reads read)
    · contradiction
  · contradiction

end Number

section Readers

variable {fuel depth : Nat} {text rest : Text}

theorem readValue_reads {value : Json}
    (items : ∀ depth text items rest, readItems fuel depth text = some (items, rest) →
      Reads text rest)
    (fields : ∀ depth text fields rest, readFields fuel depth text = some (fields, rest) →
      Reads text rest)
    (read : readValue (fuel + 1) depth text = some (value, rest)) : Reads text rest := by
  refine (Reads.skipSpace text).trans ?_
  unfold readValue at read
  split at read
  · rename_i inside quotes
    obtain ⟨part, read⟩ := exists_of_map read
    rw [quotes]
    exact .string read
  · rename_i inside bracket
    rw [bracket]
    refine (Reads.sign (by decide) inside).trans ?_
    split at read
    · contradiction
    · split at read
      · rename_i behind closing
        obtain ⟨-, rfl⟩ := Prod.mk.inj (Option.some.inj read)
        exact (Reads.skipSpace inside).trans (closing ▸ .sign (by decide) _)
      · obtain ⟨part, read⟩ := exists_of_map read
        exact items _ _ _ _ read
  · rename_i inside brace
    rw [brace]
    refine (Reads.sign (by decide) inside).trans ?_
    split at read
    · contradiction
    · split at read
      · rename_i behind closing
        obtain ⟨-, rfl⟩ := Prod.mk.inj (Option.some.inj read)
        exact (Reads.skipSpace inside).trans (closing ▸ .sign (by decide) _)
      · obtain ⟨part, read⟩ := exists_of_map read
        exact fields _ _ _ _ read
  · split at read
    · rename_i found
      obtain ⟨-, rfl⟩ := Prod.mk.inj (Option.some.inj read)
      exact .after? (by decide) found
    · rename_i found _
      obtain ⟨-, rfl⟩ := Prod.mk.inj (Option.some.inj read)
      exact .after? (by decide) found
    · rename_i found _ _
      obtain ⟨-, rfl⟩ := Prod.mk.inj (Option.some.inj read)
      exact .after? (by decide) found
    · obtain ⟨part, read⟩ := exists_of_map read
      exact Number.read?_reads read

theorem readItems_reads {found : List Json}
    (values : ∀ depth text value rest, readValue fuel depth text = some (value, rest) →
      Reads text rest)
    (items : ∀ depth text items rest, readItems fuel depth text = some (items, rest) →
      Reads text rest)
    (read : readItems (fuel + 1) depth text = some (found, rest)) : Reads text rest := by
  unfold readItems at read
  split at read
  · contradiction
  · rename_i item behind first
    refine (values _ _ _ _ first).trans ((Reads.skipSpace behind).trans ?_)
    split at read
    · rename_i more comma
      obtain ⟨part, read⟩ := exists_of_map read
      rw [comma]
      exact (Reads.sign (by decide) more).trans (items _ _ _ _ read)
    · rename_i more bracket
      obtain ⟨-, rfl⟩ := Prod.mk.inj (Option.some.inj read)
      rw [bracket]
      exact .sign (by decide) _
    · contradiction

theorem readFields_reads {found : List (Text × Json)}
    (values : ∀ depth text value rest, readValue fuel depth text = some (value, rest) →
      Reads text rest)
    (fields : ∀ depth text fields rest, readFields fuel depth text = some (fields, rest) →
      Reads text rest)
    (read : readFields (fuel + 1) depth text = some (found, rest)) : Reads text rest := by
  refine (Reads.skipSpace text).trans ?_
  unfold readFields at read
  split at read
  · rename_i inside quotes
    rw [quotes]
    split at read
    · contradiction
    · rename_i name behind string
      refine (Reads.string string).trans ((Reads.skipSpace behind).trans ?_)
      split at read
      · rename_i more colon
        rw [colon]
        refine (Reads.sign (by decide) more).trans ?_
        split at read
        · contradiction
        · rename_i value last first
          refine (values _ _ _ _ first).trans ((Reads.skipSpace last).trans ?_)
          split at read
          · rename_i others comma
            obtain ⟨part, read⟩ := exists_of_map read
            rw [comma]
            exact (Reads.sign (by decide) others).trans (fields _ _ _ _ read)
          · rename_i others brace
            obtain ⟨-, rfl⟩ := Prod.mk.inj (Option.some.inj read)
            rw [brace]
            exact .sign (by decide) _
          · contradiction
      · contradiction
  · contradiction

/-- What the three readers read is quoted, however deep they go. -/
theorem read_reads (fuel : Nat) :
    (∀ depth text value rest, readValue fuel depth text = some (value, rest) → Reads text rest) ∧
    (∀ depth text items rest, readItems fuel depth text = some (items, rest) → Reads text rest) ∧
    ∀ depth text fields rest, readFields fuel depth text = some (fields, rest) →
      Reads text rest := by
  induction fuel with
  | zero => simp [readValue, readItems, readFields]
  | succ fuel ih =>
    obtain ⟨values, items, fields⟩ := ih
    exact ⟨fun _ _ _ _ read => readValue_reads items fields read,
      fun _ _ _ _ read => readItems_reads values items read,
      fun _ _ _ _ read => readFields_reads values fields read⟩

end Readers

/-- JSON text holds no closing fence, whatever white space is around it. -/
theorem unclosed_of_parse {text : Text} (valid : (parse? (Text.trim text)).isSome = true) :
    ∀ line ∈ Text.lines text, Fence.isClose line = false := by
  obtain ⟨value, read⟩ := Option.isSome_iff_exists.mp valid
  unfold parse? at read
  split at read
  · rename_i value rest whole
    split at read
    · rename_i empty
      have behind := Reads.skipSpace rest
      rw [List.isEmpty_iff.mp empty] at behind
      obtain ⟨all, same, quoted⟩ := ((read_reads _).1 _ _ _ _ whole).trans behind
      rw [List.append_nil] at same
      exact (Text.Quoted.of_trim (same ▸ quoted)).unclosed
    · contradiction
  · contradiction

end Json

end Runbook
