import Runbook.Proofs.CommandWords
import Runbook.Proofs.TemporaryPath

/-! The paths that a command is given. A path is put into a template as one quoted word, so it is
read back as one argument whatever its names hold; and the output file of an interpreter is beside
the file that it is given, with the same stem. -/
namespace Runbook

namespace Path

variable {front name suffix : Text}

theorem eq_of_pieces_eq {path other : Text} (same : pieces path = pieces other) : path = other := by
  rw [pieces_eq_splitOn, pieces_eq_splitOn] at same
  calc path = ['/'].intercalate (List.splitOn '/' path) := (List.intercalate_splitOn '/').symm
    _ = ['/'].intercalate (List.splitOn '/' other) := by rw [same]
    _ = other := List.intercalate_splitOn '/'

theorem sibling_slash (kept : dropIdle (pieces front).reverse = (pieces front).reverse)
    (valid : IsName name) (fresh : IsName (stem name ++ suffix)) :
    sibling (front ++ '/' :: name) suffix = front ++ '/' :: (stem name ++ suffix) := by
  have file := fileName_of_reversedPieces valid (reversedPieces_slash front valid)
  obtain ⟨above, joined, parts⟩ := join_ofReversed
    (fun piece member => flat_of_mem_pieces (List.mem_reverse.mp member))
    (by simpa using pieces_ne_nil front) fresh.not_isAbsolute
  rw [kept, List.reverse_reverse] at parts
  obtain rfl : above = front := eq_of_pieces_eq parts
  rw [sibling, withFileName, file]
  simp only [parent_slash above valid, Option.getD_some, Option.map_some, joined]

end Path

namespace Location

variable {directory : List Text} {name suffix : Text}

/-- A path without empty names and single dots goes on behind its directory, and its directory has
no idle pieces. Two dots are names like others here. -/
theorem exists_front (clean : ∀ piece ∈ directory, piece ≠ [] ∧ piece ≠ ['.'] ∧ '/' ∉ piece) :
    ∃ front, (∀ name, path (directory ++ [name]) = front ++ '/' :: name) ∧
      Path.dropIdle (Path.pieces front).reverse = (Path.pieces front).reverse := by
  rcases List.eq_nil_or_concat directory with rfl | ⟨above, last, rfl⟩
  · exact ⟨[], path_append [], rfl⟩
  · rw [List.concat_eq_append] at *
    obtain ⟨nonempty, notDot, -⟩ := clean last (by simp)
    have parts : Path.pieces (path (above ++ [last])) = [] :: (above ++ [last]) := by
      have cut := Path.pieces_joined (fun piece member => (clean piece member).2.2) (by simp)
      simp [path, Path.pieces, cut]
    refine ⟨path (above ++ [last]), fun name => ?_, ?_⟩
    · rw [path_append (above ++ [last]), if_neg (by simp)]
    rw [parts]
    cases shape : above.reverse ++ [[]] with
    | nil => simp at shape
    | cons piece more => simp [shape, Path.dropIdle, nonempty, notDot]

theorem sibling_clean (clean : ∀ piece ∈ directory, piece ≠ [] ∧ piece ≠ ['.'] ∧ '/' ∉ piece)
    (valid : Path.IsName name) (fresh : Path.IsName (Path.stem name ++ suffix)) :
    Path.sibling (path (directory ++ [name])) suffix =
      path (directory ++ [Path.stem name ++ suffix]) := by
  obtain ⟨front, shape, kept⟩ := exists_front clean
  rw [shape, shape, Path.sibling_slash kept valid fresh]

end Location

namespace Invocation

open Command

/-- A word of a command template with the paths in their places. -/
def filled (file : Text) (output : Option Text) (word : Text) : Text :=
  if word = "\x7bfile\x7d".toList then file
  else if word = "\x7boutput\x7d".toList then output.getD word
  else word

theorem candidates_filled (language : Language) (file : Text) :
    ∃ templates, language.commands.mapM split = some templates ∧
      language.candidates (some file) =
        templates.map (List.map (filled file (outputPath? language (some file)))) := by
  refine ⟨language.fields.map (List.map Field.template), by cases language <;> decide, ?_⟩
  cases language <;>
    simp [Language.candidates, Language.fields, Field.resolve, Field.template, values, filled,
      outputPath?, Language.outputSuffix?]

theorem isName_output {language : Language} {stem suffix : Text}
    (asked : language.outputSuffix? = some suffix) (flat : '/' ∉ stem) :
    Path.IsName (stem ++ suffix) := by
  obtain rfl : suffix = ".svg".toList := by cases language <;> cases asked; rfl
  have differs {other : Text} (short : other.length ≤ 2) : stem ++ ".svg".toList ≠ other := by
    rintro rfl
    simp at short
  exact ⟨differs (by simp), by simpa using flat, differs (by simp), differs (by simp)⟩

/-- A block with a temporary file can always be called, and its commands are the words of the
templates, the file's path and that of its output being one argument each. -/
theorem build_paths (language : Language) (content : Text) (options : PlanOptions)
    {directory : List Text} {stem extension : Text} (asks : language.tempFile ≠ .absent)
    (clean : ∀ piece ∈ directory, piece ≠ [] ∧ piece ≠ ['.'] ∧ '/' ∉ piece)
    (named : Path.IsName (stem ++ '.' :: extension)) (stemmed : stem ≠ [])
    (plain : '.' ∉ extension) :
    let file := Location.path (directory ++ [stem ++ '.' :: extension])
    let output := language.outputSuffix?.map fun suffix =>
      Location.path (directory ++ [stem ++ suffix])
    ∃ templates, language.commands.mapM split = some templates ∧
      build language content (some file) options = .ok
        { candidates := templates.map (List.map (filled file output))
          stdin := stdin? language content options
          outputPath := output } := by
  intro file output
  have beside : outputPath? language (some file) = output := by
    cases asked : language.outputSuffix? with
    | none => simp [outputPath?, output, asked]
    | some suffix =>
      have flat : '/' ∉ stem := fun member => named.flat (by simp [member])
      have fresh := isName_output asked flat
      rw [← Path.stem_dot stemmed plain] at fresh
      simp only [outputPath?, output, asked, file, Option.map_some]
      rw [Location.sibling_clean clean named fresh, Path.stem_dot stemmed plain]
  obtain ⟨templates, split, candidates⟩ := candidates_filled language file
  have made : (some file).isSome = (language.tempFile != .absent) := by simpa using asks
  refine ⟨templates, split, ?_⟩
  rw [build_eq language content options made, candidates, beside]

/-- A diagram under names with quotes, line ends, braces and all that a shell would read. -/
theorem build_paths_diagram :
    let directory : List Text := ["it's \"here\"".toList, "..".toList, "$(x) \x7bfile\x7d\n# \x60a\x60 \\".toList]
    let stem : Text := "a'b\x7b .".toList
    let file := Location.path (directory ++ [stem ++ '.' :: "mmd".toList])
    let output := Location.path (directory ++ [stem ++ ".svg".toList])
    build .mermaid "graph TD" (some file) {} =
      .ok ⟨[["mmdc".toList, "-i".toList, file, "-o".toList, output]], none, some output⟩ := by
  intro directory stem file output
  obtain ⟨templates, split, built⟩ := build_paths .mermaid "graph TD" {} (by decide)
    (show ∀ piece ∈ directory, piece ≠ [] ∧ piece ≠ ['.'] ∧ '/' ∉ piece by decide)
    (show Path.IsName (stem ++ '.' :: "mmd".toList) by decide) (by decide) (by decide)
  have words : Language.mermaid.commands.mapM Command.split =
      some [["mmdc".toList, "-i".toList, "\x7bfile\x7d".toList, "-o".toList, "\x7boutput\x7d".toList]] := by
    decide
  obtain rfl := Option.some.inj (words.symm.trans split)
  exact built

end Invocation
end Runbook
