import Runbook.Command.Template

/-! Command templates that are written from parts: text in which every brace is doubled, and names
in braces. However the parts follow one another, a template is read as the parts it was written
from; so it comes to their words, or to the first of them that has none, at the byte where that part
begins. -/
namespace Runbook

namespace Text

theorem utf8Length_append (first rest : Text) :
    utf8Length (first ++ rest) = utf8Length first + utf8Length rest := by
  induction first with
  | nil => simp [utf8Length]
  | cons c first ih => simp only [List.cons_append, utf8Length, ih, Nat.add_assoc]

end Text

namespace Command

/-- What a template is written from: text that stands for itself, and a name that stands for its
value. White space around a name is not part of it. -/
inductive Part
  | literal (text : Text)
  | named (left name right : Text)
  deriving DecidableEq, Repr

def doubled (c : Char) : Text := if c = '{' ∨ c = '}' then [c, c] else [c]

namespace Part

def written : Part → Text
  | .literal text => text.flatMap doubled
  | .named left name right => '{' :: (left ++ name ++ right) ++ ['}']

/-- A name does not hold the brace that ends it, and does not begin like a doubled one. -/
def IsProper : Part → Prop
  | .literal _ => True
  | .named left name right => Text.isBlankText left = true ∧ Text.isBlankText right = true ∧
      '}' ∉ name ∧ name.head? ≠ some '{'

instance : (part : Part) → Decidable part.IsProper
  | .literal _ => inferInstanceAs (Decidable True)
  | .named _ _ _ => inferInstanceAs (Decidable (_ ∧ _ ∧ _ ∧ _))

/-- What the part comes to, if it is text or its name has a value. -/
def word? (values : Values) : Part → Option Text
  | .literal text => some text
  | .named _ name _ => (values (Text.trim name)).map quote

end Part

def written (parts : List Part) : Text := parts.flatMap Part.written

variable {values : Values} {part : Part} {parts : List Part} {word rest : Text} {words : List Text}

theorem renderFrom_doubled (text rest : Text) (position : Nat) :
    renderFrom values position (text.flatMap doubled ++ rest) =
      (text ++ ·) <$>
        renderFrom values (position + Text.utf8Length (text.flatMap doubled)) rest := by
  induction text generalizing position with
  | nil => cases shape : renderFrom values position rest <;> simp [Text.utf8Length, shape]
  | cons c text ih =>
    rw [List.flatMap_cons, List.append_assoc, Text.utf8Length_append, ← Nat.add_assoc]
    by_cases brace : c = '{' ∨ c = '}'
    · have step : renderFrom values position ([c, c] ++ (text.flatMap doubled ++ rest)) =
          (c :: ·) <$> renderFrom values (position + 2) (text.flatMap doubled ++ rest) := by
        rcases brace with rfl | rfl
        · rw [List.cons_append, List.cons_append, List.nil_append, renderFrom]
        · rw [List.cons_append, List.cons_append, List.nil_append, renderFrom]
      have size : Text.utf8Length [c, c] = 2 := by rcases brace with rfl | rfl <;> rfl
      rw [doubled, if_pos brace, step, ih, size, Functor.map_map]
      rfl
    · obtain ⟨opens, closes⟩ := not_or.mp brace
      have step : renderFrom values position ([c] ++ (text.flatMap doubled ++ rest)) =
          (c :: ·) <$> renderFrom values (position + c.utf8Size)
            (text.flatMap doubled ++ rest) := by
        rw [List.singleton_append, renderFrom]
        · exact fun _ same => absurd same opens
        · exact opens
        · exact fun _ same => absurd same closes
      rw [doubled, if_neg brace, step, ih, Functor.map_map]
      rfl

theorem placeholder_name {name : Text} (closed : '}' ∉ name) (rest : Text) :
    placeholder? (name ++ '}' :: rest) = some (name, rest) := by
  have differs : ∀ c ∈ name, (c != '}') = true := by
    intro c member
    simp only [bne_iff_ne, ne_eq]
    rintro rfl
    exact closed member
  simp [placeholder?, List.dropWhile_append_of_pos differs, List.takeWhile_append_of_pos differs]

theorem renderFrom_unclosed (single : rest.head? ≠ some '{') (unclosed : '}' ∉ rest)
    (position : Nat) :
    renderFrom values position ('{' :: rest) = .error (.unmatchedBrace position) := by
  have nowhere : placeholder? rest = none := by
    have differs : ∀ c ∈ rest, (c != '}') = true := by
      intro c member
      simpa using fun same : c = '}' => unclosed (same ▸ member)
    have past : (rest ++ []).dropWhile (· != '}') = [] := List.dropWhile_append_of_pos differs
    rw [List.append_nil] at past
    rw [placeholder?, past]
  rw [renderFrom]
  · rw [nowhere]
  · rintro more rfl
    simp at single

/-- A placeholder is read up to its own brace, whatever follows it. -/
theorem renderFrom_named {left name right : Text} (proper : (Part.named left name right).IsProper)
    (rest : Text) (position : Nat) :
    renderFrom values position ((Part.named left name right).written ++ rest) =
      match values (Text.trim name) with
      | none => .error (.undefinedPlaceholder (Text.trim name) position)
      | some value => (quote value ++ ·) <$> renderFrom values
          (position + Text.utf8Length (Part.named left name right).written) rest := by
  obtain ⟨before, behind, closed, single⟩ := proper
  have plain {blanks : Text} (white : Text.isBlankText blanks = true) (c : Char)
      (brace : Text.isBlank c = false) : c ∉ blanks := by
    intro member
    rw [List.all_eq_true.mp white c member] at brace
    contradiction
  have inside : '}' ∉ left ++ name ++ right := by
    simp [closed, plain before '}' (by decide), plain behind '}' (by decide)]
  have first : (left ++ name ++ right ++ '}' :: rest).head? ≠ some '{' := by
    cases left with
    | nil =>
      cases name with
      | nil =>
        cases right with
        | nil => simp
        | cons c right =>
          simpa using fun same : c = '{' => plain behind '{' (by decide) (by simp [same])
      | cons c name => simpa using single
    | cons c left =>
      simpa using fun same : c = '{' => plain before '{' (by decide) (by simp [same])
  have size : Text.utf8Length (Part.named left name right).written =
      Text.utf8Length (left ++ name ++ right) + 2 := by
    simp only [Part.written, List.cons_append, Text.utf8Length, Text.utf8Length_append]
    have one : '{'.utf8Size = 1 ∧ '}'.utf8Size = 1 := by decide
    omega
  have shape : (Part.named left name right).written ++ rest =
      '{' :: (left ++ name ++ right ++ '}' :: rest) := by
    simp [Part.written]
  rw [shape, renderFrom]
  · rw [placeholder_name inside]
    cases known : values (Text.trim name) <;>
      simp only [Text.trim_padded before behind, known, size, Nat.add_assoc]
  · intro more same
    exact first (by rw [same, List.head?_cons])

theorem renderFrom_part (proper : part.IsProper) (known : part.word? values = some word)
    (rest : Text) (position : Nat) :
    renderFrom values position (part.written ++ rest) =
      (word ++ ·) <$> renderFrom values (position + Text.utf8Length part.written) rest := by
  cases part with
  | literal text =>
    obtain rfl := Option.some.inj known
    exact renderFrom_doubled text rest position
  | named left name right =>
    obtain ⟨value, found, rfl⟩ := Option.map_eq_some_iff.mp known
    rw [renderFrom_named proper, found]

theorem renderFrom_written (proper : ∀ part ∈ parts, part.IsProper)
    (known : parts.mapM (Part.word? values) = some words) (rest : Text) (position : Nat) :
    renderFrom values position (written parts ++ rest) =
      (words.flatten ++ ·) <$>
        renderFrom values (position + Text.utf8Length (written parts)) rest := by
  induction parts generalizing words position with
  | nil =>
    obtain rfl : [] = words := by simpa using known
    cases shape : renderFrom values position rest <;> simp [written, Text.utf8Length, shape]
  | cons part parts ih =>
    simp only [List.mapM_cons, Option.bind_eq_bind, Option.bind_eq_some_iff, Option.pure_def,
      Option.some.injEq] at known
    obtain ⟨word, first, others, known, rfl⟩ := known
    have onward := ih (fun other member => proper other (by simp [member])) known
      (position + Text.utf8Length part.written)
    rw [written, List.flatMap_cons, List.append_assoc,
      renderFrom_part (proper part List.mem_cons_self) first, ← written, onward,
      Text.utf8Length_append, ← Nat.add_assoc, Functor.map_map]
    simp

/-- If not all parts come to words, there is a first one that does not: a name without a value. -/
theorem exists_first_unknown (unknown : parts.mapM (Part.word? values) = none) :
    ∃ before left name right after words, parts = before ++ .named left name right :: after ∧
      before.mapM (Part.word? values) = some words ∧ values (Text.trim name) = none := by
  induction parts with
  | nil => contradiction
  | cons part parts ih =>
    cases first : part.word? values with
    | none =>
      cases part with
      | literal text => contradiction
      | named left name right =>
        exact ⟨[], left, name, right, parts, [], rfl, rfl, Option.map_eq_none_iff.mp first⟩
    | some word =>
      have later : parts.mapM (Part.word? values) = none := by
        cases others : parts.mapM (Part.word? values) with
        | none => rfl
        | some words => simp [List.mapM_cons, first, others] at unknown
      obtain ⟨before, left, name, right, after, words, rfl, known, missing⟩ := ih later
      exact ⟨part :: before, left, name, right, after, word :: words, rfl,
        by simp [List.mapM_cons, first, known], missing⟩

/-- A template comes to the words of its parts if all names have values. Otherwise its first name
without a value is an error at the byte where its brace stands, whatever follows; and behind parts
that come to words a brace that is never closed is an error there. -/
theorem render_parts (values : Values) (parts : List Part)
    (proper : ∀ part ∈ parts, part.IsProper) :
    (∀ words, parts.mapM (Part.word? values) = some words →
        render (written parts) values = .ok words.flatten) ∧
      (parts.mapM (Part.word? values) = none → ∃ before left name right after words,
        parts = before ++ .named left name right :: after ∧
          before.mapM (Part.word? values) = some words ∧ values (Text.trim name) = none ∧
          ∀ rest, render (written parts ++ rest) values =
            .error (.undefinedPlaceholder (Text.trim name) (Text.utf8Length (written before)))) ∧
      ∀ words rest, parts.mapM (Part.word? values) = some words → '}' ∉ rest →
        rest.head? ≠ some '{' → render (written parts ++ '{' :: rest) values =
          .error (.unmatchedBrace (Text.utf8Length (written parts))) := by
  refine ⟨fun words known => ?_, fun unknown => ?_, fun words rest known unclosed single => ?_⟩
  · have whole := renderFrom_written proper known [] 0
    rw [List.append_nil] at whole
    rw [render, whole, renderFrom]
    simp [Functor.map, Except.map]
  · obtain ⟨before, left, name, right, after, words, rfl, known, missing⟩ :=
      exists_first_unknown unknown
    refine ⟨before, left, name, right, after, words, rfl, known, missing, fun rest => ?_⟩
    have above : ∀ part ∈ before, part.IsProper := fun part member => proper part (by simp [member])
    have here : (Part.named left name right).IsProper := proper _ (by simp)
    have shape : written (before ++ .named left name right :: after) ++ rest =
        written before ++ ((Part.named left name right).written ++ (written after ++ rest)) := by
      simp [written]
    rw [render, shape, renderFrom_written above known, renderFrom_named here, missing, Nat.zero_add]
    rfl
  · rw [render, renderFrom_written proper known, renderFrom_unclosed single unclosed, Nat.zero_add]
    rfl

/-- Braces side by side, behind a character of two bytes: a literal one, a name with white space
around it, another literal one, and one that is never closed. -/
theorem render_parts_braces :
    let values : Values := fun name => if name = "file".toList then some "/my docs/é.sh" else none
    let parts : List Part := [.literal "é \x7b", .named " " "file" "\t", .literal "\x7d"]
    written parts = "é \x7b\x7b\x7b file\t\x7d\x7d\x7d".toList ∧
      render (written parts) values = .ok "é \x7b'/my docs/é.sh'\x7d" ∧
      render (written parts ++ "\x7bnope".toList) values = .error (.unmatchedBrace 15) := by
  intro values parts
  have proper : ∀ part ∈ parts, part.IsProper := by decide
  have known : parts.mapM (Part.word? values) =
      some ["é \x7b".toList, "'/my docs/é.sh'".toList, "\x7d".toList] := by
    decide
  obtain ⟨rendered, -, unclosed⟩ := render_parts values parts proper
  exact ⟨by decide, rendered _ known, unclosed _ "nope" known (by decide) (by decide)⟩

end Command
end Runbook
