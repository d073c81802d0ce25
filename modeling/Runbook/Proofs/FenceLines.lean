import Mathlib
import Runbook.Proofs.Scan

/-! The grammar of fence lines. A line opens a block exactly if three backticks, a tag and nothing
or white space begin it. What opens a result opens a block as well, and what closes one does not,
so each line has one reading. -/
namespace Runbook

namespace Line

variable {line : Line}

/-- A line splits into what is read of it and the signs that end it. -/
theorem stripTerminator_between (line : Line) :
    (∃ ends, line = line.stripTerminator ++ ends ∧ ∀ c ∈ ends, c = '\n' ∨ c = '\r') ∧
      ∀ c, line.stripTerminator.getLast? = some c → c ≠ '\n' ∧ c ≠ '\r' := by
  let ends (c : Char) : Bool := c == '\n' || c == '\r'
  have whole := congrArg List.reverse
    (List.takeWhile_append_dropWhile (p := ends) (l := line.reverse))
  rw [List.reverse_append, List.reverse_reverse] at whole
  constructor
  · refine ⟨(line.reverse.takeWhile ends).reverse, whole.symm, fun c member => ?_⟩
    have sign := List.all_eq_true.mp List.all_takeWhile c (List.mem_reverse.mp member)
    simpa [ends] using sign
  · intro c last
    rw [stripTerminator, List.getLast?_reverse] at last
    have sign := List.head?_dropWhile_not ends line.reverse
    rw [last] at sign
    simpa [ends] using sign

theorem single_stripTerminator (single : '\n' ∉ line.dropLast) : '\n' ∉ line.stripTerminator := by
  obtain ⟨⟨ends, shape, -⟩, final⟩ := line.stripTerminator_between
  intro broken
  rcases List.eq_nil_or_concat line.stripTerminator with nothing | ⟨init, last, strip⟩
  · simp [nothing] at broken
  · have sign := (final last (by simp [strip])).1
    have within : init <+: line.dropLast := by
      refine ⟨(last :: ends).dropLast, ?_⟩
      conv => rhs; rw [shape, strip]
      rw [List.concat_eq_append, List.append_assoc, List.singleton_append,
        List.dropLast_append_of_ne_nil (by simp)]
    rw [strip, List.concat_eq_append, List.mem_append, List.mem_singleton] at broken
    rcases broken with broken | rfl
    · exact single (within.subset broken)
    · exact sign rfl

end Line

namespace Fence

variable {line : Line} {word rest : Text} {header : Header}

/-- The line opens with a fence, a tag and nothing or white space, and more text. -/
structure Tagged (line : Line) (word rest : Text) : Prop where
  text : line.stripTerminator = marker ++ (word ++ rest)
  nonempty : word ≠ []
  word : ∀ c ∈ word, Text.isWord c = true
  apart : ∀ c, rest.head? = some c → Text.isBlank c = true

namespace Tagged

variable (tagged : Tagged line word rest)
include tagged

theorem after? : Text.after? marker line.stripTerminator = some (word ++ rest) := by
  rw [tagged.text, Text.after?_append]

theorem takeWhile : (word ++ rest).takeWhile Text.isWord = word ∧
    (word ++ rest).dropWhile Text.isWord = rest := by
  have stops : rest.takeWhile Text.isWord = [] ∧ rest.dropWhile Text.isWord = rest := by
    cases rest with
    | nil => exact ⟨rfl, rfl⟩
    | cons c rest => simp [(Text.isBlank_apart (tagged.apart c rfl)).1]
  rw [List.takeWhile_append_of_pos tagged.word, List.dropWhile_append_of_pos tagged.word,
    stops.1, stops.2, List.append_nil]
  exact ⟨rfl, rfl⟩

theorem rawOptions? (single : '\n' ∉ line.dropLast) :
    Fence.rawOptions? rest = some (rest.dropWhile Text.isBlank) := by
  cases shape : rest with
  | nil => rfl
  | cons c more =>
    have white := tagged.apart c (by rw [shape]; rfl)
    have plain : '\n' ∉ more.dropWhile Text.isBlank := by
      intro broken
      have within := (List.dropWhile_suffix Text.isBlank).subset broken
      exact Line.single_stripTerminator single (by simp [tagged.text, shape, within])
    simp [Fence.rawOptions?, white, plain]

theorem parse? (single : '\n' ∉ line.dropLast) :
    Header.parse? line = some ⟨Text.lower word, rest.dropWhile Text.isBlank⟩ := by
  obtain ⟨tag, behind⟩ := tagged.takeWhile
  unfold Header.parse?
  rw [tagged.after?]
  simp [tag, behind, tagged.nonempty, tagged.rawOptions? single]

end Tagged

theorem exists_tagged (parsed : Header.parse? line = some header) :
    ∃ word rest, Tagged line word rest := by
  unfold Header.parse? at parsed
  split at parsed
  · contradiction
  · rename_i text found
    dsimp only at parsed
    split at parsed
    · contradiction
    · rename_i nonempty
      obtain ⟨options, read, -⟩ := Option.map_eq_some_iff.mp parsed
      refine ⟨text.takeWhile Text.isWord, text.dropWhile Text.isWord, ?_, by simpa using nonempty,
        fun c member => List.all_eq_true.mp List.all_takeWhile c member, fun c lead => ?_⟩
      · rw [List.takeWhile_append_dropWhile]
        exact Text.eq_append_of_after? found
      · cases behind : text.dropWhile Text.isWord with
        | nil => simp [behind] at lead
        | cons d more =>
          obtain rfl : d = c := by simpa [behind] using lead
          by_contra black
          simp [behind, Fence.rawOptions?, black] at read

theorem parse?_eq_some_iff (single : '\n' ∉ line.dropLast) :
    Header.parse? line = some header ↔ ∃ word rest, Tagged line word rest ∧
      header = ⟨Text.lower word, rest.dropWhile Text.isBlank⟩ := by
  constructor
  · intro parsed
    obtain ⟨word, rest, tagged⟩ := exists_tagged parsed
    rw [tagged.parse? single] at parsed
    exact ⟨word, rest, tagged, (Option.some.inj parsed).symm⟩
  · rintro ⟨word, rest, tagged, rfl⟩
    exact tagged.parse? single

/-! What folds to a small letter is a letter, and what folds to white space is white. -/

variable {c : Char} {text wanted : Text}

theorem isBlank_of_isAlpha (letter : c.isAlpha = true) : Text.isBlank c = false := by
  by_contra white
  have word : Text.isWord c = true := Text.isWord_of_isAlphanum (by simp [Char.isAlphanum, letter])
  simp [(Text.isBlank_apart (by simpa using white)).1] at word

theorem isWord_of_fold (lower : (fold c).isLower = true) : Text.isWord c = true := by
  unfold fold at lower
  split at lower
  · rename_i long
    rw [long]
    decide +kernel
  · rw [Char.isLower_toLower_eq_isAlpha] at lower
    exact Text.isWord_of_isAlphanum (by simp [Char.isAlphanum, lower])

theorem isBlank_fold (c : Char) : Text.isBlank (fold c) = Text.isBlank c := by
  unfold fold
  split
  · rename_i long
    rw [long]
    decide
  · by_cases upper : c.isUpper = true
    · have letter : c.isAlpha = true := by simp [Char.isAlpha, upper]
      rw [isBlank_of_isAlpha letter,
        isBlank_of_isAlpha (c.isAlpha_toLower_eq_isAlpha.trans letter)]
    · rw [Char.toLower_eq_of_not_isUpper upper]

theorem fold_marker (folded : text.map fold = marker ++ wanted) :
    ∃ rest, text = marker ++ rest ∧ rest.map fold = wanted := by
  rw [marker_eq] at folded ⊢
  obtain ⟨a, _, rfl, first, folded⟩ := List.map_eq_cons_iff.mp folded
  obtain ⟨b, _, rfl, second, folded⟩ := List.map_eq_cons_iff.mp folded
  obtain ⟨d, rest, rfl, third, folded⟩ := List.map_eq_cons_iff.mp folded
  rw [eq_backtick_of_fold first, eq_backtick_of_fold second, eq_backtick_of_fold third]
  exact ⟨rest, rfl, folded⟩

/-- A text that folds to small letters can be a tag. -/
theorem isWord_of_map_fold (folded : text.map fold = wanted)
    (lower : wanted.all Char.isLower = true) : ∀ c ∈ text, Text.isWord c = true := fun _ member =>
  isWord_of_fold (List.all_eq_true.mp lower _ (folded ▸ List.mem_map_of_mem member))

end Fence

namespace Text

variable {text passed : Text}

theorem lowerAfter_ascii (ascii : ∀ c ∈ text, c.toNat < 0x80) :
    lowerAfter passed text = text.map Char.toLower := by
  induction text generalizing passed with
  | nil => rfl
  | cons c text ih =>
    obtain ⟨small, others⟩ := List.forall_mem_cons.mp ascii
    have dotted : c ≠ '\u0130' := by
      rintro rfl
      exact absurd small (by decide)
    have sigma : c ≠ '\u03A3' := by
      rintro rfl
      exact absurd small (by decide)
    rw [lowerAfter, if_neg dotted, if_neg sigma, ih others, lowerChar, if_pos small]
    rfl

end Text

namespace Fence

variable {line : Line} {c : Char} {text wanted : Text}

theorem ascii_of_isAlpha (letter : c.isAlpha = true) : c.toNat < 0x80 := by
  simp only [Char.isAlpha, Char.isUpper, Char.isLower, Bool.or_eq_true, Bool.and_eq_true,
    decide_eq_true_eq, UInt32.le_iff_toNat_le] at letter
  rcases letter with within | within <;> simp at within <;> omega

/-- Beyond ASCII only the long s folds to a small letter. -/
theorem fold_ascii (lower : (fold c).isLower = true) (short : fold c ≠ 's') :
    c.toNat < 0x80 ∧ fold c = c.toLower := by
  unfold fold at lower short ⊢
  split
  · rename_i long
    simp [long] at short
  · rename_i other
    rw [if_neg other, Char.isLower_toLower_eq_isAlpha] at lower
    exact ⟨ascii_of_isAlpha lower, rfl⟩

/-- A tag that folds to small letters, none an `s`, folds to its lower case. -/
theorem lower_of_map_fold (folded : text.map fold = wanted)
    (lower : wanted.all Char.isLower = true) (short : 's' ∉ wanted) :
    Text.lower text = wanted := by
  have plain : ∀ c ∈ text, c.toNat < 0x80 ∧ fold c = c.toLower := by
    intro c member
    have sign : fold c ∈ wanted := folded ▸ List.mem_map_of_mem member
    refine fold_ascii (List.all_eq_true.mp lower _ sign) fun same => ?_
    exact short (same ▸ sign)
  rw [Text.lower, Text.lowerAfter_ascii fun c member => (plain c member).1, ← folded]
  exact (List.map_congr_left fun c member => (plain c member).2).symm

theorem tagged_of_opensResult (opens : opensResult line = true) : ∃ word, Tagged line word [] := by
  rw [opensResult, beq_iff_eq] at opens
  obtain ⟨word, strip, folded⟩ := fold_marker opens
  refine ⟨word, by rw [strip, List.append_nil], ?_,
    isWord_of_map_fold folded (by decide), by simp⟩
  rintro rfl
  exact absurd folded (by decide)

/-- An inline result opens with the tag `ruby`, and what follows folds to `result`. -/
theorem tagged_of_opensInlineResult (opens : opensInlineResult line = true) :
    ∃ word rest, Tagged line word rest ∧ Text.lower word = "ruby".toList ∧
      (rest.dropWhile Text.isBlank).map fold = "result".toList := by
  unfold opensInlineResult at opens
  split at opens
  · rename_i c behind found
    rw [Bool.and_eq_true, beq_iff_eq] at opens
    have whole := Text.eq_append_of_after? found
    rw [List.append_assoc] at whole
    obtain ⟨text, strip, folded⟩ := fold_marker whole
    obtain ⟨word, rest, rfl, same, behindFolded⟩ := List.map_eq_append_iff.mp folded
    obtain ⟨d, more, rfl, lead, behind⟩ := List.map_eq_cons_iff.mp behindFolded
    have white : Text.isBlank d = true := by rw [← isBlank_fold, lead, opens.1]
    have tagged : Tagged line word (d :: more) := by
      refine ⟨strip, ?_, isWord_of_map_fold same (by decide), ?_⟩
      · rintro rfl
        exact absurd same (by decide)
      · rintro e sign
        exact Option.some.inj sign ▸ white
    refine ⟨word, d :: more, tagged, lower_of_map_fold same (by decide) (by decide), ?_⟩
    rw [List.dropWhile_cons_of_pos white, ← opens.2, ← behind, List.dropWhile_map]
    exact congrArg (List.map fold) (congrArg (List.dropWhile · more)
      (funext fun c => (isBlank_fold c).symm))
  · contradiction

/-- The grammar of fence lines, for lines with at most the newline at their end. What opens a block
is three backticks, a tag of word characters and nothing or white space behind it; the tag counts
in lower case and the options from their first sign on. A line that closes a fence opens nothing,
an inline result opens with the tag `ruby` and an option, and a plain result without one. -/
theorem line_grammar (single : '\n' ∉ line.dropLast) :
    (∀ header, Header.parse? line = some header ↔ ∃ word rest, Tagged line word rest ∧
      header = ⟨Text.lower word, rest.dropWhile Text.isBlank⟩) ∧
    (isClose line = true → Header.parse? line = none ∧
      ∀ kind : ArtifactKind, kind.isFenced = true → kind.opens line = false) ∧
    (opensInlineResult line = true → ArtifactKind.resultFence.opens line = false ∧
      ∃ raw, raw ≠ [] ∧ Header.parse? line = some ⟨"ruby".toList, raw⟩) ∧
    (ArtifactKind.resultFence.opens line = true → ∃ tag, Header.parse? line = some ⟨tag, []⟩) := by
  have plain (opens : ArtifactKind.resultFence.opens line = true) :
      ∃ tag, Header.parse? line = some ⟨tag, []⟩ := by
    obtain ⟨word, tagged⟩ := tagged_of_opensResult opens
    exact ⟨Text.lower word, tagged.parse? single⟩
  refine ⟨fun header => parse?_eq_some_iff single, fun closes => ?_, fun opens => ?_, plain⟩
  · exact ⟨Line.parse?_of_close closes, fun kind fenced => Line.not_opens_of_close fenced closes⟩
  · obtain ⟨word, rest, tagged, ruby, folded⟩ := tagged_of_opensInlineResult opens
    have option : rest.dropWhile Text.isBlank ≠ [] := by
      intro nothing
      rw [nothing] at folded
      exact absurd folded (by decide)
    have parsed := tagged.parse? single
    rw [ruby] at parsed
    refine ⟨?_, _, option, parsed⟩
    by_contra both
    obtain ⟨tag, same⟩ := plain (by simpa using both)
    rw [parsed] at same
    exact option (Header.mk.inj (Option.some.inj same)).2

/-- White space of any kind sets the options apart, and a carriage return may stand among it. -/
theorem line_grammar_ruby :
    let line : Line := "```Ruby\u3000\r RE\u017Fult\r\r\n".toList
    '\n' ∉ line.dropLast ∧ opensInlineResult line = true ∧
      Header.parse? line = some ⟨"ruby".toList, "RE\u017Fult".toList⟩ ∧
      ArtifactKind.resultFence.opens line = false := by
  intro line
  have single : '\n' ∉ line.dropLast := by decide +kernel
  have opens : opensInlineResult line = true := by decide +kernel
  have tagged : Tagged line "Ruby".toList "\u3000\r RE\u017Fult".toList :=
    ⟨by decide +kernel, by decide, List.all_eq_true.mp (by decide +kernel),
      fun c lead => Option.some.inj lead ▸ by decide⟩
  obtain ⟨grammar, -, inline, -⟩ := line_grammar single
  exact ⟨single, opens, (grammar _).mpr ⟨_, _, tagged, by decide +kernel⟩, (inline opens).1⟩

end Fence
end Runbook
