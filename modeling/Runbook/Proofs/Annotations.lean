import Runbook.Annotation
import Runbook.Fence
import Runbook.Proofs.Lines

/-! Annotations as they are written, recognised and taken away. A diagnostic is written row by row
and rows know two ways to end a line, while annotations are taken away line by line; still all
that is written is taken away again, and nothing else is. -/
namespace Runbook

namespace Text

variable {text body finish : Text} {line : Line}

theorem before?_append (finish body : Text) : before? finish (body ++ finish) = some body := by
  simp [before?]

theorem eq_append_of_before? (found : before? finish text = some body) : text = body ++ finish := by
  unfold before? at found
  split at found
  · rename_i ends
    obtain ⟨front, rfl⟩ := List.isSuffixOf_iff_suffix.mp ends
    obtain rfl : front = body := by simpa using found
    rfl
  · contradiction

/-- What the line is as a row. -/
def row (line : Line) : Text :=
  match before? ['\n'] line with
  | some body => (before? ['\r'] body).getD body
  | none => line

theorem rows_eq (text : Text) : rows text = (lines text).map row := rfl

/-- Of a line that is ended the newline goes, and a carriage return right before it. -/
theorem row_ended (body : Text) : body = row (body ++ ['\n']) ∨
    body = row (body ++ ['\n']) ++ ['\r'] := by
  unfold row
  rw [before?_append]
  cases shorter : before? ['\r'] body with
  | none => exact .inl (by simp [shorter])
  | some short =>
    right
    simp only [shorter, Option.getD_some]
    exact eq_append_of_before? shorter

theorem row_unended (single : '\n' ∉ line) : row line = line := by
  unfold row
  split
  · rename_i body cut
    exact absurd (eq_append_of_before? cut ▸ by simp) single
  · rfl

theorem AreLines.single {all : List Line} (valid : AreLines all) (member : line ∈ all) :
    '\n' ∉ line ∨ line.IsEnded := by
  induction valid with
  | nil => simp at member
  | last nonempty single => exact .inl (List.mem_singleton.mp member ▸ single)
  | cons ended _ ih =>
    rcases List.mem_cons.mp member with rfl | member
    · exact .inr ended
    · exact ih member

theorem single_of_rows {words : Text} (member : words ∈ rows text) : '\n' ∉ words := by
  rw [rows_eq] at member
  obtain ⟨line, among, rfl⟩ := List.mem_map.mp member
  rcases (areLines_lines text).single among with single | ⟨body, single, rfl⟩
  · rwa [row_unended single]
  · rcases row_ended body with same | same
    · rwa [← same]
    · rw [same] at single
      exact fun inside => single (List.mem_append_left _ inside)

theorem rows_ne_nil (nonempty : text ≠ []) : rows text ≠ [] := by
  intro nothing
  have none : lines text = [] := List.map_eq_nil_iff.mp nothing
  have whole := lines_flatten text
  rw [none] at whole
  exact nonempty whole.symm

end Text

namespace Annotation

variable {content diagnostic rest : Text} {line : Line}

/-- A row of a diagnostic as a line of its own. -/
def exceptionLine (words : Text) : Line := exceptionMark ++ ' ' :: words ++ ['\n']

theorem lines_exceptionLines (diagnostic : Text) :
    Text.lines (exceptionLines diagnostic) = (Text.rows diagnostic).map exceptionLine := by
  have ended : ∀ line ∈ (Text.rows diagnostic).map exceptionLine, Line.IsEnded line := by
    intro line member
    obtain ⟨words, among, rfl⟩ := List.mem_map.mp member
    refine ⟨exceptionMark ++ ' ' :: words, ?_, rfl⟩
    have single := Text.single_of_rows among
    have mark : '\n' ∉ exceptionMark := by decide
    simp [mark, single]
  exact Text.lines_flatten_ended ended

theorem trimStart_exceptionMark (rest : Text) :
    Text.trimStart (exceptionMark ++ rest) = exceptionMark ++ rest := by
  have sign : Text.isBlank '#' = false := by decide
  rw [show exceptionMark = '#' :: " ~>".toList by decide, List.cons_append, Text.trimStart,
    List.dropWhile_cons_of_neg (by simp [sign])]

/-- What opens with the sign of an exception is a result line. -/
theorem isResultLine_exceptionMark (rest : Text) : isResultLine (exceptionMark ++ rest) = true := by
  rw [isResultLine, trimStart_exceptionMark]
  simp

theorem not_isClose_exceptionMark (rest : Text) :
    Fence.isClose (exceptionMark ++ rest) = false := by
  apply Bool.eq_false_iff.mpr
  intro closes
  have shorter : Text.trimEnd (exceptionMark ++ rest) <+: exceptionMark ++ rest := by
    rw [← List.reverse_suffix, Text.trimEnd, List.reverse_reverse]
    exact List.dropWhile_suffix _
  rw [Fence.isClose, beq_iff_eq, Text.trim, trimStart_exceptionMark] at closes
  obtain ⟨more, same⟩ := closes ▸ shorter
  exact absurd (List.cons.inj same).1 (by decide)

/-- Stripping drops whole lines, so what is left stays cut as it was. -/
theorem lines_strip (content : Text) :
    Text.lines (strip content) = (Text.lines content).filter fun line => !isResultLine line := by
  have within : ((Text.lines content).filter fun line => !isResultLine line).Sublist
      (Text.lines content) := List.filter_sublist
  exact ((Text.areLines_lines content).sublist within).lines_flatten

theorem strip_append (whole : Text.IsWhole content) (rest : Text) :
    strip (content ++ rest) = strip content ++ strip rest := by
  rw [strip, whole.lines_append, List.filter_append, List.flatten_append]
  rfl

@[simp] theorem strip_strip (content : Text) : strip (strip content) = strip content := by
  rw [strip, lines_strip, List.filter_filter]
  simp only [Bool.and_self]
  rfl

@[simp] theorem strip_exceptionLines (diagnostic : Text) :
    strip (exceptionLines diagnostic) = [] := by
  rw [strip, lines_exceptionLines, List.flatten_eq_nil_iff]
  intro line member
  obtain ⟨among, kept⟩ := List.mem_filter.mp member
  obtain ⟨words, -, rfl⟩ := List.mem_map.mp among
  rw [exceptionLine, List.append_assoc, isResultLine_exceptionMark] at kept
  contradiction

theorem isWhole_strip (whole : Text.IsWhole content) : Text.IsWhole (strip content) := by
  unfold Text.IsWhole
  rw [lines_strip]
  exact fun line member => whole line (List.mem_filter.mp member).1

/-- An exception line is still one as a row, even if a carriage return that ended the diagnostic's
row is gone with the newline. -/
theorem isResultLine_row (words : Text) : isResultLine (Text.row (exceptionLine words)) = true := by
  have marked : exceptionMark <+: Text.row (exceptionLine words) := by
    have whole : exceptionMark <+: exceptionMark ++ ' ' :: words := List.prefix_append _ _
    rcases Text.row_ended (exceptionMark ++ ' ' :: words) with same | same
    · exact same ▸ whole
    · refine List.prefix_of_prefix_length_le whole ⟨_, same.symm⟩ ?_
      have lengths := congrArg List.length same
      simp only [List.length_append, List.length_cons, List.length_nil] at lengths
      rw [exceptionLine]
      omega
  obtain ⟨rest, shape⟩ := marked
  rw [← shape]
  exact isResultLine_exceptionMark rest

theorem exists_row (reported : diagnostic ≠ []) :
    ∃ words, exceptionLine words ∈ Text.lines (exceptionLines diagnostic) := by
  obtain ⟨words, among⟩ := List.exists_mem_of_ne_nil _ (Text.rows_ne_nil reported)
  rw [lines_exceptionLines]
  exact ⟨words, List.mem_map_of_mem among⟩

theorem isAnnotated_append (whole : Text.IsWhole content) (reported : diagnostic ≠ []) :
    isAnnotated (content ++ exceptionLines diagnostic) = true := by
  obtain ⟨words, among⟩ := exists_row reported
  rw [isAnnotated, Text.rows_eq, whole.lines_append, List.any_eq_true]
  refine ⟨Text.row (exceptionLine words), ?_, by rw [isResultLine_row, Bool.true_or]⟩
  exact List.mem_map_of_mem (List.mem_append_right _ among)

theorem not_isBlankText_append (content : Text) (reported : diagnostic ≠ []) :
    Text.isBlankText (content ++ exceptionLines diagnostic) = false := by
  obtain ⟨words, among⟩ := exists_row reported
  have sign : '#' ∈ exceptionLines diagnostic := by
    rw [← Text.lines_flatten (exceptionLines diagnostic)]
    exact List.mem_flatten.mpr ⟨_, among, by simp [exceptionLine, exceptionMark]⟩
  rw [Text.isBlankText, List.all_eq_false]
  exact ⟨'#', List.mem_append_right _ sign, by decide⟩

/-- No note of a failure closes the block that it stands in. -/
theorem unclosed_exceptionLines (diagnostic : Text) :
    ∀ line ∈ Text.lines (exceptionLines diagnostic), Fence.isClose line = false := by
  intro line member
  rw [lines_exceptionLines] at member
  obtain ⟨words, -, rfl⟩ := List.mem_map.mp member
  rw [exceptionLine, List.append_assoc]
  exact not_isClose_exceptionMark _

end Annotation
end Runbook
