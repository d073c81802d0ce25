import Runbook.Text.Line

/-! Lines as a theory of their own: when a list of lines is what a text is cut into, and how
the cut of a text follows from the cuts of its parts. A line can be followed by others only
if it carries its newline. -/
namespace Runbook

namespace Line

/-- The line carries its newline, and it has no other. -/
def IsEnded (line : Line) : Prop := ∃ body : Text, '\n' ∉ body ∧ line = body ++ ['\n']

theorem IsEnded.endsLine {line : Line} (ended : line.IsEnded) : Text.endsLine line = true := by
  obtain ⟨body, -, rfl⟩ := ended
  simp [Text.endsLine]

theorem isEnded_newline : Line.IsEnded ['\n'] := ⟨[], by simp, rfl⟩

end Line

namespace Text

/-- The lines are those that some text is cut into: all but the last carry their newlines. -/
inductive AreLines : List Line → Prop
  | nil : AreLines []
  | last {line : Line} : line ≠ [] → '\n' ∉ line → AreLines [line]
  | cons {line : Line} {more : List Line} : line.IsEnded → AreLines more → AreLines (line :: more)

theorem lines_unended {line : Line} (nonempty : line ≠ []) (single : '\n' ∉ line) :
    lines line = [line] := by
  induction line with
  | nil => exact absurd rfl nonempty
  | cons c rest ih =>
    simp only [List.mem_cons, not_or] at single
    have differs : c ≠ '\n' := fun h => single.1 h.symm
    cases rest with
    | nil => simp [lines, differs]
    | cons d rest =>
      have tail := ih (by simp) single.2
      rw [lines, if_neg differs, tail]

theorem lines_ended_append {line : Line} (ended : line.IsEnded) (rest : Text) :
    lines (line ++ rest) = line :: lines rest := by
  obtain ⟨body, single, rfl⟩ := ended
  induction body with
  | nil => simp [lines]
  | cons c body ih =>
    simp only [List.mem_cons, not_or] at single
    have differs : c ≠ '\n' := fun h => single.1 h.symm
    have tail := ih single.2
    simp only [List.cons_append] at tail ⊢
    rw [lines, if_neg differs, tail]

theorem lines_flatten_append {start : List Line} (ended : ∀ line ∈ start, Line.IsEnded line)
    (rest : Text) : lines (start.flatten ++ rest) = start ++ lines rest := by
  induction start with
  | nil => rfl
  | cons line start ih =>
    have more := ih fun other member => ended other (List.mem_cons_of_mem _ member)
    rw [List.flatten_cons, List.append_assoc, lines_ended_append (ended line (by simp)), more]
    rfl

/-- Lines that all carry their newlines are those of the text they make up. -/
theorem lines_flatten_ended {all : List Line} (ended : ∀ line ∈ all, Line.IsEnded line) :
    lines all.flatten = all := by
  have cut := lines_flatten_append ended []
  rwa [List.append_nil, lines, List.append_nil] at cut

theorem areLines_lines (text : Text) : AreLines (lines text) := by
  by_cases broken : '\n' ∈ text
  · obtain ⟨body, rest, shape, single⟩ := List.eq_append_cons_of_mem broken
    have ended : Line.IsEnded (body ++ ['\n']) := ⟨body, single, rfl⟩
    have cut := lines_ended_append ended rest
    rw [List.append_assoc, List.singleton_append, ← shape] at cut
    have shorter : rest.length < text.length := by
      simp only [shape, List.length_append, List.length_cons]
      omega
    rw [cut]
    exact .cons ended (areLines_lines rest)
  · cases text with
    | nil => exact .nil
    | cons c text =>
      rw [lines_unended (by simp) broken]
      exact .last (by simp) broken
termination_by text.length

namespace AreLines

variable {all start rest : List Line} {line : Line}

theorem lines_flatten (valid : AreLines all) : lines all.flatten = all := by
  induction valid with
  | nil => rfl
  | last nonempty single => simpa using lines_unended nonempty single
  | cons ended _ ih => rw [List.flatten_cons, lines_ended_append ended, ih]

theorem tail (valid : AreLines (line :: rest)) : AreLines rest := by
  cases valid with
  | last => exact .nil
  | cons _ more => exact more

/-- What follows any number of lines are lines again. -/
theorem of_append (valid : AreLines (start ++ rest)) : AreLines rest := by
  induction start with
  | nil => exact valid
  | cons line start ih => exact ih valid.tail

theorem of_suffix (valid : AreLines all) (suffix : rest <:+ all) : AreLines rest := by
  obtain ⟨start, rfl⟩ := suffix
  exact valid.of_append

theorem ended_of_followed (valid : AreLines (line :: rest)) (followed : rest ≠ []) :
    line.IsEnded := by
  cases valid with
  | last => exact absurd rfl followed
  | cons ended _ => exact ended

theorem ended_of_append (valid : AreLines (start ++ rest)) (followed : rest ≠ []) :
    ∀ line ∈ start, Line.IsEnded line := by
  induction start with
  | nil => simp
  | cons first start ih =>
    intro line member
    rcases List.mem_cons.mp member with rfl | member
    · exact valid.ended_of_followed (by simp [followed])
    · exact ih valid.tail line member

theorem append (ended : ∀ line ∈ start, Line.IsEnded line) (valid : AreLines rest) :
    AreLines (start ++ rest) := by
  induction start with
  | nil => exact valid
  | cons line start ih =>
    exact .cons (ended line (by simp)) (ih fun other member => ended other (by simp [member]))

theorem sublist {part : List Line} (valid : AreLines all) (within : part.Sublist all) :
    AreLines part := by
  induction valid generalizing part with
  | nil => exact List.sublist_nil.mp within ▸ .nil
  | last nonempty single =>
    rcases List.sublist_cons_iff.mp within with empty | ⟨more, rfl, empty⟩
    · exact List.sublist_nil.mp empty ▸ .nil
    · exact List.sublist_nil.mp empty ▸ .last nonempty single
  | cons ended _ ih =>
    rcases List.sublist_cons_iff.mp within with later | ⟨more, rfl, later⟩
    · exact ih later
    · exact .cons ended (ih later)

/-- Lines at the end give way to others, unless there were none. -/
theorem replace {out : List Line} (valid : AreLines (start ++ rest)) (other : AreLines out)
    (nothing : rest = [] → out = []) : AreLines (start ++ out) := by
  by_cases empty : out = []
  · subst empty
    exact valid.sublist ((List.Sublist.refl start).append (List.nil_sublist rest))
  · exact .append (valid.ended_of_append fun ends => empty (nothing ends)) other

theorem isEnded (valid : AreLines all) (member : line ∈ all) (ends : Text.endsLine line = true) :
    line.IsEnded := by
  induction valid with
  | nil => simp at member
  | last _ single =>
    rw [List.mem_singleton.mp member, Text.endsLine, beq_iff_eq] at ends
    exact absurd (List.mem_of_getLast? ends) single
  | cons ended _ ih =>
    rcases List.mem_cons.mp member with rfl | member
    · exact ended
    · exact ih member

/-- What lets the last line end in a newline lets every line. -/
theorem endsLine_of_last {p : Line → Prop} (valid : AreLines all)
    (last : ∀ line, all.getLast? = some line → p line → Text.endsLine line = true) :
    ∀ line ∈ all, p line → Text.endsLine line = true := by
  induction valid with
  | nil => simp
  | last _ _ =>
    intro line member
    exact last line (by simp [List.mem_singleton.mp member])
  | @cons first more ended _ ih =>
    intro line member
    rcases List.mem_cons.mp member with rfl | member
    · exact fun _ => ended.endsLine
    · refine ih (fun final ends => last final ?_) line member
      rw [List.getLast?_cons, ends]
      rfl

/-- A newline is all that the last line can lack. -/
theorem terminated (valid : AreLines all) (member : line ∈ all) :
    Line.IsEnded (Text.terminated line) := by
  induction valid with
  | nil => simp at member
  | @last last _ single =>
    obtain rfl := List.mem_singleton.mp member
    have unended : Text.endsLine line = false := by
      simp only [Text.endsLine, beq_eq_false_iff_ne, ne_eq]
      intro ends
      exact single (List.mem_of_getLast? ends)
    rw [Text.terminated, if_neg (by simp [unended])]
    exact ⟨line, single, rfl⟩
  | @cons first more ended _ ih =>
    rcases List.mem_cons.mp member with rfl | member
    · rw [Text.terminated, if_pos ended.endsLine]
      exact ended
    · exact ih member

end AreLines

/-- Every line of the text carries its newline. -/
def IsWhole (text : Text) : Prop := ∀ line ∈ lines text, Line.IsEnded line

namespace IsWhole

variable {text rest : Text}

/-- A whole text and what follows it are cut apart. -/
theorem lines_append (whole : IsWhole text) (rest : Text) :
    lines (text ++ rest) = lines text ++ lines rest := by
  have cut := lines_flatten_append whole rest
  rwa [lines_flatten] at cut

theorem append (first : IsWhole text) (last : IsWhole rest) : IsWhole (text ++ rest) := by
  unfold IsWhole
  rw [first.lines_append]
  exact List.forall_mem_append.mpr ⟨first, last⟩

theorem nil : IsWhole [] := by simp [IsWhole, lines]

/-- Nothing is added to such a text, unless there is nothing in it. -/
theorem terminated (whole : IsWhole text) (nonempty : text ≠ []) :
    Text.terminated text = text := by
  rcases List.eq_nil_or_concat (lines text) with nothing | ⟨init, last, cut⟩
  · have same := Text.lines_flatten text
    rw [nothing] at same
    exact absurd same.symm nonempty
  · obtain ⟨body, -, rfl⟩ := whole last (by simp [cut])
    have ends : endsLine text = true := by
      rw [← Text.lines_flatten text, cut]
      simp [endsLine]
    rw [Text.terminated, if_pos ends]

theorem ofLine {line : Line} (ended : line.IsEnded) : IsWhole line := by
  have cut := lines_ended_append ended []
  rw [List.append_nil] at cut
  simpa [IsWhole, cut, lines] using ended

theorem flatten {texts : List Text} (all : ∀ text ∈ texts, IsWhole text) :
    IsWhole texts.flatten := by
  induction texts with
  | nil => exact nil
  | cons text texts ih =>
    obtain ⟨first, others⟩ := List.forall_mem_cons.mp all
    exact first.append (ih others)

theorem flatMap {α : Type} {parts : List α} {f : α → Text}
    (all : ∀ part ∈ parts, IsWhole (f part)) : IsWhole (parts.flatMap f) := by
  rw [List.flatMap_def]
  exact flatten (List.forall_mem_map.mpr all)

theorem lines_flatten {texts : List Text} (all : ∀ text ∈ texts, IsWhole text) :
    lines texts.flatten = texts.flatMap lines := by
  induction texts with
  | nil => rfl
  | cons text texts ih =>
    obtain ⟨first, others⟩ := List.forall_mem_cons.mp all
    rw [List.flatten_cons, first.lines_append, ih others, List.flatMap_cons]

end IsWhole

end Text
end Runbook
