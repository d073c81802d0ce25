import Runbook.Invocation
import Runbook.Proofs.TemplateParts

/-! Command lines that are put together from words. A word that has been quoted is read back as it
was, so the arguments of a command template are the words of the template with its values in
their places, whatever the values are. -/
namespace Runbook
namespace Command

variable {word rest : Text}

/-! ## Quoted words -/

theorem splitFrom_plain (plain : ∀ c ∈ word, isSpecial c = false) (read rest : Text) :
    splitFrom .unquoted read (word ++ rest) = splitFrom .unquoted (read ++ word) rest := by
  induction word generalizing read with
  | nil => simp
  | cons c word ih =>
    have bare := plain c (by simp)
    have onward := ih (fun c member => plain c (by simp [member])) (read ++ [c])
    simp [isSpecial] at bare
    simpa [splitFrom, isDelimiter, bare] using onward

/-- Inside single quotes every character stands for itself, a single quote by a detour. -/
theorem splitFrom_quotedChars (word read rest : Text) :
    splitFrom .singleQuoted read (word.flatMap quotedChar ++ '\x27' :: rest) =
      splitFrom .unquoted (read ++ word) rest := by
  induction word generalizing read with
  | nil => simp [splitFrom]
  | cons c word ih =>
    have onward := ih (read ++ [c])
    by_cases quote : c = '\x27'
    · subst quote
      simpa [quotedChar, splitFrom] using onward
    · simpa [quotedChar, splitFrom, quote] using onward

theorem splitFrom_quote (word rest : Text) :
    splitFrom .delimiter [] (quote word ++ rest) = splitFrom .unquoted word rest := by
  unfold quote
  split
  · simpa [splitFrom] using splitFrom_quotedChars word [] rest
  · rename_i bare
    simp only [Bool.or_eq_true, List.isEmpty_iff, List.any_eq_true, not_or, not_exists, not_and,
      Bool.not_eq_true] at bare
    obtain ⟨nonempty, plain⟩ := bare
    cases word with
    | nil => exact absurd rfl nonempty
    | cons c word =>
      have first := plain c (by simp)
      have onward := splitFrom_plain (fun d (member : d ∈ word) => plain d (by simp [member])) [c] rest
      simp [isSpecial] at first
      simpa [splitFrom, isDelimiter, first] using onward

/-- Words that have been quoted are read back as they were. -/
theorem split_quoted (words : List Text) :
    split (Text.joined [' '] (words.map quote)) = some words := by
  induction words with
  | nil => rfl
  | cons word words ih =>
    cases words with
    | nil => simpa [split, Text.joined, splitFrom] using splitFrom_quote word []
    | cons next words =>
      have first := splitFrom_quote word (' ' :: Text.joined [' '] ((next :: words).map quote))
      simp only [split, Text.joined, List.map_cons, List.intercalate_cons_cons, List.append_assoc,
        List.singleton_append] at first ih ⊢
      rw [first]
      simp [splitFrom, isDelimiter, ih]

/-! ## Templates -/

/-- A word of a command template. -/
inductive Field
  | word (text : Text)
  | value (name : Text)
  deriving DecidableEq, Repr

namespace Field

/-- How it is written in a template. -/
def template : Field → Text
  | .word text => text
  | .value name => '\x7b' :: name ++ ['\x7d']

def resolve (values : Values) : Field → Option Text
  | .word text => some text
  | .value name => values name

/-- A word is written as it is, and a name stands in its braces. -/
def IsPlain : Field → Prop
  | .word text => text ≠ [] ∧ ∀ c ∈ text, isSpecial c = false ∧ c ≠ '\x7b' ∧ c ≠ '\x7d'
  | .value name => Text.trim name = name ∧ name.head? ≠ some '\x7b' ∧ '\x7d' ∉ name

end Field

variable {values : Values}

namespace Field

/-- A word of a template is text without braces, or a name in its braces. -/
def part : Field → Part
  | .word text => .literal text
  | .value name => .named [] name []

variable {field : Field} (plain : field.IsPlain)
include plain

theorem written_part : field.part.written = field.template := by
  cases field with
  | word text =>
    have single : ∀ c ∈ text, doubled c = [c] := by
      intro c member
      obtain ⟨-, opens, closes⟩ := plain.2 c member
      simp [doubled, opens, closes]
    calc text.flatMap doubled = text.flatMap fun c => [c] := by
          rw [List.flatMap_def, List.map_congr_left single, ← List.flatMap_def]
      _ = text := List.flatMap_singleton' text
  | value name => simp [part, Part.written, template]

theorem isProper_part : field.part.IsProper := by
  cases field with
  | word text => trivial
  | value name => exact ⟨rfl, rfl, plain.2.2, plain.2.1⟩

theorem word_part (values : Values) : field.part.word? values = (field.resolve values).map quote := by
  cases field with
  | word text =>
    have unspecial : text.any isSpecial = false := by
      simpa using fun c member => (plain.2 c member).1
    simp [part, Part.word?, resolve, quote, plain.1, unspecial]
  | value name => simp [part, Part.word?, resolve, plain.1]

end Field

theorem renderFrom_field {field : Field} (plain : field.IsPlain)
    (known : field.resolve values = some word) {out : Text}
    (rendered : ∀ position, renderFrom values position rest = .ok out) (position : Nat) :
    renderFrom values position (field.template ++ rest) = .ok (quote word ++ out) := by
  have quoted : field.part.word? values = some (quote word) := by
    rw [Field.word_part plain, known, Option.map_some]
  rw [← Field.written_part plain, renderFrom_part (Field.isProper_part plain) quoted, rendered]
  rfl

theorem renderFrom_blank {out : Text}
    (rendered : ∀ position, renderFrom values position rest = .ok out) (position : Nat) :
    renderFrom values position ([' '] ++ rest) = .ok ([' '] ++ out) := by
  have single : [' '] = [' '].flatMap doubled := by decide
  rw [single, renderFrom_doubled, rendered]
  rfl

theorem arguments_fields {fields : List Field} (plain : ∀ field ∈ fields, field.IsPlain)
    {words : List Text} (known : fields.mapM (Field.resolve values) = some words) :
    arguments (Text.joined [' '] (fields.map Field.template)) values = .ok words := by
  have rendered (position : Nat) :
      renderFrom values position (Text.joined [' '] (fields.map Field.template)) =
        .ok (Text.joined [' '] (words.map quote)) := by
    induction fields generalizing words position with
    | nil =>
      obtain rfl : [] = words := by simpa using known
      simp [Text.joined, renderFrom]
    | cons field fields ih =>
      simp only [List.mapM_cons, Option.bind_eq_bind, Option.bind_eq_some_iff, Option.pure_def,
        Option.some.injEq] at known
      obtain ⟨word, resolved, others, known, rfl⟩ := known
      have first := plain field (by simp)
      have onward := ih (fun other member => plain other (by simp [member])) known
      cases fields with
      | nil =>
        obtain rfl : [] = others := by simpa using known
        have alone := renderFrom_field first resolved onward position
        simpa [Text.joined] using alone
      | cons next fields =>
        have behind := renderFrom_field first resolved (renderFrom_blank onward) position
        obtain ⟨second, others, rfl⟩ : ∃ second more, others = second :: more := by
          cases others with
          | nil => simp [List.mapM_cons, Option.bind_eq_some_iff] at known
          | cons second more => exact ⟨second, more, rfl⟩
        simpa [Text.joined, List.intercalate_cons_cons] using behind
  simp [arguments, render, rendered, split_quoted, bind, Except.bind]

end Command

namespace Language

open Command

/-- The words of the command templates. -/
def fields : Language → List (List Field)
  | .psql => [[.word "psql", .word "-A", .word "-t", .word "-X"]]
  | .ruby => [[.word "xmpfilter", .value "file"]]
  | .js => [[.word "bun", .value "file"], [.word "node", .value "file"]]
  | .sqlite => [[.word "sqlite3", .value "file"]]
  | .bash => [[.word "bash", .value "file"]]
  | .zsh => [[.word "zsh", .value "file"]]
  | .sh => [[.word "sh", .value "file"]]
  | .mermaid => [[.word "mmdc", .word "-i", .value "file", .word "-o", .value "output"]]

theorem commands_eq (language : Language) :
    language.commands = language.fields.map fun fields => Text.joined [' '] (fields.map Field.template) := by
  cases language <;> decide

theorem isPlain_fields (language : Language) :
    ∀ fields ∈ language.fields, ∀ field ∈ fields, field.IsPlain := by
  cases language <;> simp [fields, Field.IsPlain] <;> decide

/-- The commands of a block with a temporary file, as lists of arguments. -/
def candidates (language : Language) (tempPath : Option Text) : List (List Text) :=
  language.fields.map fun fields => fields.filterMap <|
    Field.resolve (Invocation.values tempPath (Invocation.outputPath? language tempPath))

end Language

namespace Invocation

open Command

theorem resolve_fields (language : Language) {tempPath : Option Text}
    (made : tempPath.isSome = (language.tempFile != .absent)) :
    ∀ fields ∈ language.fields,
      fields.mapM (Field.resolve (values tempPath (outputPath? language tempPath))) =
        some (fields.filterMap (Field.resolve (values tempPath (outputPath? language tempPath)))) := by
  cases tempPath with
  | none => cases language <;> first | contradiction | decide
  | some path =>
    cases language <;>
      simp [Language.fields, Field.resolve, values, outputPath?, Language.outputSuffix?,
        Language.tempFile] at made ⊢

theorem mapM_templates {ε : Type} {f : Text → Except ε (List Text)} {g : List Field → List Text}
    {templates : List (List Field)}
    (each : ∀ fields ∈ templates,
      f (Text.joined [' '] (fields.map Field.template)) = .ok (g fields)) :
    (templates.map fun fields => Text.joined [' '] (fields.map Field.template)).mapM f =
      .ok (templates.map g) := by
  induction templates with
  | nil => rfl
  | cons fields templates ih =>
    simp only [List.map_cons, List.mapM_cons, each fields (by simp),
      ih fun other member => each other (by simp [member])]
    rfl

/-- The invocation of a block can always be built, if it has the temporary file that its language
asks for. -/
theorem build_eq (language : Language) (content : Text) (options : PlanOptions)
    {tempPath : Option Text} (made : tempPath.isSome = (language.tempFile != .absent)) :
    build language content tempPath options =
      .ok ⟨language.candidates tempPath, stdin? language content options,
        outputPath? language tempPath⟩ := by
  have candidates : language.commands.mapM (fun template =>
        arguments template (values tempPath (outputPath? language tempPath))) =
      .ok (language.candidates tempPath) := by
    rw [language.commands_eq]
    exact mapM_templates fun fields member => arguments_fields (language.isPlain_fields fields member)
      (resolve_fields language made fields member)
  simp only [build, candidates, bind, Except.bind]
  rfl

end Invocation
end Runbook
